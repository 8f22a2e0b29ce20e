import Assessment.Proofs.Item.Attempt
import Assessment.Proofs.Item.Typing

/-!
# Attempts that are scored later

Of several attempts that are all scored later, the last one decides. If it answers every response
variable, scoring then comes to the same as if the last attempt alone had been made, and scored at
once. What earlier attempts leave behind is their number and the time they took. Rules that do not
read these two variables cannot tell.

Scoring at once stops where time cannot be counted, because the session has no variable for it.
Sessions that were created have one. Where both ways of scoring succeed, they agree in any case.

## Main definitions

- `ItemState.Agrees`: two sessions in which the same was done, apart from some responses.
- `ItemDefinition.ScoresWithoutCounters`: the rules that score an item read neither the number of
  attempts nor the time.

## Main results

- `ItemDelivery.coincide_processResponse`: sessions that agree but for the counters are scored
  alike.
- `ItemDelivery.agrees_of_deferAll`: scoring after several attempts is scoring the last one.
-/

namespace Assessment

open Action

/-! ### Sessions that agree -/

namespace Store

variable {names : List Identifier} {first second : Store}

theorem SameBut.get? (h : SameBut names first second) {name : Identifier} (hname : name ∉ names) :
    first.get? name = second.get? name :=
  (h.values name hname).symm

/-- The same value may be put into both stores. -/
theorem SameBut.insert (h : SameBut names first second) (name : Identifier) (value : Value) :
    SameBut names (first.insert name value) (second.insert name value) where
  keys other := by
    rw [Bool.eq_iff_iff, SortedMap.contains_insert, SortedMap.contains_insert, h.keys]
  values other hother := by
    by_cases heq : other = name
    · rw [heq, SortedMap.get?_insert_self, SortedMap.get?_insert_self]
    · rw [SortedMap.get?_insert_of_ne _ heq, SortedMap.get?_insert_of_ne _ heq,
        h.values other hother]

/-- The same value is put into both stores, or into neither. -/
theorem SameBut.set (h : SameBut names first second) (name : Identifier) (value : Value) :
    Matches (SameBut names) (first.set name value) (second.set name value) := by
  rw [Store.set, Store.set, h.keys]
  split
  · exact h.insert name value
  · exact rfl

end Store

namespace ItemState

/-- Two sessions of one item in which the same was done. The responses of some names may have other
values, and it may be noted otherwise which attempts were made and when. -/
structure Agrees (names : List Identifier) (first second : ItemState) : Prop where
  /-- They are sessions of one item. -/
  digest : first.digest = second.digest
  /-- They stand at the same place. -/
  status : first.status = second.status
  /-- Template processing was done in both or in neither. -/
  templateProcessed : first.templateProcessed = second.templateProcessed
  /-- The template variables have the same values. -/
  templates : first.templates = second.templates
  /-- The other responses have the same values. -/
  responses : Store.SameBut names first.responses second.responses
  /-- The outcomes have the same values. -/
  outcomes : first.outcomes = second.outcomes
  /-- The same correct answers were changed. -/
  correctOverrides : first.correctOverrides = second.correctOverrides
  /-- The same defaults were changed. -/
  defaultOverrides : first.defaultOverrides = second.defaultOverrides
  /-- They draw the same random numbers. -/
  seed : first.seed = second.seed
  /-- They draw the same random numbers next. -/
  passes : first.passes = second.passes

/-- The names of the responses that the session counts by itself. -/
def counters : List Identifier := [BuiltIn.numAttempts.identifier, BuiltIn.duration.identifier]

/-- Sessions that agree but for the counters, and time can be counted in both if `timed` is true,
else in neither. -/
structure AgreesTimed (timed : Bool) (first second : ItemState) : Prop extends
    first.Agrees counters second where
  /-- Whether time can be counted. -/
  contains : first.responses.contains BuiltIn.duration.identifier = timed

variable {names : List Identifier} {timed : Bool} {first second third : ItemState}

theorem Agrees.refl (names : List Identifier) (state : ItemState) : state.Agrees names state :=
  ⟨rfl, rfl, rfl, rfl, .refl _ _, rfl, rfl, rfl, rfl, rfl⟩

theorem Agrees.trans (h : first.Agrees names second) (h' : second.Agrees names third) :
    first.Agrees names third :=
  ⟨h.digest.trans h'.digest, h.status.trans h'.status,
    h.templateProcessed.trans h'.templateProcessed, h.templates.trans h'.templates,
    h.responses.trans h'.responses, h.outcomes.trans h'.outcomes,
    h.correctOverrides.trans h'.correctOverrides, h.defaultOverrides.trans h'.defaultOverrides,
    h.seed.trans h'.seed, h.passes.trans h'.passes⟩

/-- An attempt that waits to be scored changes nothing but responses. -/
theorem Answers.agrees (h : first.Answers names second) : first.Agrees names second := by
  obtain ⟨responses, lastEvent, hresponses, rfl⟩ := h
  exact ⟨rfl, rfl, rfl, rfl, hresponses, rfl, rfl, rfl, rfl, rfl⟩

/-! ### What expressions see -/

/-- Names that are not excepted have the same values. -/
theorem Agrees.read (h : first.Agrees names second) (definition : ItemDefinition)
    {name : Identifier} (hname : name ∉ names) :
    first.read definition name = second.read definition name := by
  unfold ItemState.read
  congr 1
  funext declaration
  unfold Store.value
  cases declaration.role with
  | template => simp only [store, h.templates]
  | response => simp only [store, h.responses.get? hname]
  | outcome => simp only [store, h.outcomes]

end ItemState

/-- The variable whose value an expression reads, apart from its operands. -/
def Expression.reads? : Expression → Option Identifier
  | valueOf name _ | mapResponse name | mapResponsePoint name => some name
  | _ => none

/-- A leaf that reads no excepted name has the same value. -/
theorem ItemState.Agrees.evaluateLeaf {names : List Identifier} {first second : ItemState}
    (h : first.Agrees names second) (definition : ItemDefinition) {node : Expression}
    (hnode : ∀ name ∈ node.reads?, name ∉ names) :
    Assessment.evaluateLeaf (view definition first) node =
      Assessment.evaluateLeaf (view definition second) node := by
  have hdefault : (view definition first).defaultValue = (view definition second).defaultValue := by
    funext name
    simp only [view, readDefault, h.defaultOverrides]
  have hcorrect : (view definition first).correctValue = (view definition second).correctValue := by
    funext name
    simp only [view, readCorrect, h.correctOverrides]
  cases node with
  | valueOf name weight | mapResponse name | mapResponsePoint name =>
    have hvalue : (view definition first).value name = (view definition second).value name :=
      h.read definition (hnode name rfl)
    simp only [Assessment.evaluateLeaf, mappedScore, mappedPointScore, hvalue]
    rfl
  | defaultOf name => rw [Assessment.evaluateLeaf, Assessment.evaluateLeaf, hdefault]
  | correctOf name => rw [Assessment.evaluateLeaf, Assessment.evaluateLeaf, hcorrect]
  | _ => rfl

/-- The rules that score an item read neither the number of attempts nor the time. -/
def ItemDefinition.ScoresWithoutCounters (definition : ItemDefinition) : Prop :=
  Rule.Admitted (fun expression => ∀ node ∈ expression.walk, ∀ name ∈ node.reads?,
    name ∉ ItemState.counters) (Rule.walkAll definition.responseProcessing)

/-! ### Changes that keep sessions in agreement -/

namespace ItemState

variable {timed : Bool} {first second : ItemState}

/-- A variable is set in both sessions, or in neither. -/
theorem AgreesTimed.set (h : first.AgreesTimed timed second) (role : Role) (name : Identifier)
    (value : Value) :
    Matches (fun a b => (first.setStore role a).AgreesTimed timed (second.setStore role b))
      ((first.store role).set name value) ((second.store role).set name value) := by
  cases role with
  | template =>
    simp only [store, h.templates]
    exact matches_self fun store _ => { h with templates := rfl }
  | outcome =>
    simp only [store, h.outcomes]
    exact matches_self fun store _ => { h with outcomes := rfl }
  | response =>
    have hset := h.responses.set name value
    simp only [store]
    cases hfirst : first.responses.set name value <;>
      cases hsecond : second.responses.set name value <;> rw [hfirst, hsecond] at hset
    case ok.ok a b =>
      refine { h with responses := hset, contains := ?_ }
      exact ((Store.sameBut_of_set hfirst).keys _).trans h.contains
    all_goals exact hset

/-- Several variables are set in both sessions, up to the first that is missing in both. -/
theorem AgreesTimed.alike_setAll (h : first.AgreesTimed timed second) (role : Role)
    (bindings : List (Identifier × Value)) :
    Alike (AgreesTimed timed) (setAll role bindings) (setAll role bindings) first second := by
  induction bindings generalizing first second with
  | nil => exact alike_pure h
  | cons binding rest ih =>
    have hset := h.set role binding.1 binding.2
    rw [setAll, alike_get_bind]
    cases hfirst : (first.store role).set binding.1 binding.2 <;>
      cases hsecond : (second.store role).set binding.1 binding.2 <;> rw [hfirst, hsecond] at hset
    case ok.ok => exact ih hset
    case error.error =>
      cases hset
      exact (alike_throw h).bind fun _ _ _ hleft => ih hleft
    all_goals exact hset.elim

/-- To rules that read no counter, sessions look alike that agree but for the counters. -/
theorem stage_relates_agreesTimed (engine : Engine) (definition : ItemDefinition) (timed : Bool) :
    (stage definition).Relates engine
      (fun expression => ∀ node ∈ expression.walk, ∀ name ∈ node.reads?, name ∉ counters)
      (AgreesTimed timed) where
  evaluate hexpression h :=
    Expression.tryEvaluate_congr engine _ fun node hnode =>
      h.evaluateLeaf definition (hexpression node hnode)
  declaration? _ _ := rfl
  assign {s t} name value h := by
    change Matches _ (assign definition name value s) (assign definition name value t)
    unfold assign
    cases declared definition name with
    | error error => exact rfl
    | ok declaration => exact (h.set declaration.role name value).bind fun _ _ hset => hset
  setCorrect {s t _} name value hover h := by
    cases hover
    change Matches _ (setCorrect definition name value s) (setCorrect definition name value t)
    unfold setCorrect
    cases definition.response? name with
    | none => exact rfl
    | some _ => exact { h with correctOverrides := by simp only [h.correctOverrides] }
  setDefault {s t _} name value hover h := by
    cases hover
    change Matches _ (setDefault definition name value s) (setDefault definition name value t)
    unfold setDefault
    cases declared definition name with
    | error error => exact rfl
    | ok _ => exact { h with defaultOverrides := by simp only [h.defaultOverrides] }

end ItemState

/-! ### Scoring -/

namespace ItemDelivery

variable {item : ItemDelivery} {timed : Bool} {first second : ItemState}

section alike

variable (h : first.AgreesTimed timed second)

include h

theorem alike_check : Alike (ItemState.AgreesTimed timed) item.check item.check first second := by
  rw [check, alike_get_bind, h.digest]
  dsimp only
  split
  · exact alike_pure h
  · exact alike_throw h

theorem alike_requireInteracting :
    Alike (ItemState.AgreesTimed timed) requireInteracting requireInteracting first second := by
  rw [requireInteracting, alike_get_bind, h.status]
  cases second.status with
  | notEntered => exact alike_throw h
  | interacting => exact alike_pure h
  | closed => exact alike_throw h

theorem alike_resetOutcomes :
    Alike (ItemState.AgreesTimed timed) item.resetOutcomes item.resetOutcomes first second := by
  have hreset : ∀ name initial, resetValue first name initial = resetValue second name initial :=
    fun _ _ => by rw [resetValue, resetValue, h.defaultOverrides]
  rw [resetOutcomes, alike_get_bind]
  simp only [hreset]
  exact (h.alike_setAll _ _).rename _

theorem alike_nextEnvironment :
    Alike (ItemState.AgreesTimed timed) item.nextEnvironment item.nextEnvironment first second := by
  rw [nextEnvironment, alike_get_bind, h.seed, h.passes]
  exact alike_pure { h with passes := rfl, seed := rfl }

theorem alike_setCompletion (completion : Completion) :
    Alike (ItemState.AgreesTimed timed) (ItemAction.setCompletion completion)
      (ItemAction.setCompletion completion) first second :=
  (h.alike_setAll _ _).rename _

theorem completion?_eq : first.completion? = second.completion? := by
  rw [ItemState.completion?, ItemState.completion?, h.outcomes]

/-- Time is counted in both sessions, each at a time of its own. -/
theorem coincide_touch (now now' : Timestamp) :
    Coincide (timed = true) (ItemState.AgreesTimed timed) (item.touch now) (item.touch now')
      first second := by
  have hcounted : ∀ {s t : ItemState}, first.Counted s → second.Counted t →
      s.AgreesTimed timed t := by
    rintro _ _ ⟨responses, lastEvent, hresponses, rfl⟩ ⟨responses', lastEvent', hresponses', rfl⟩
    have hsubset : [BuiltIn.duration.identifier] ⊆ ItemState.counters :=
      List.subset_cons_self _ _
    exact { h with
      responses := ((hresponses.mono hsubset).symm.trans h.responses).trans
        (hresponses'.mono hsubset)
      contains := (hresponses.keys _).trans h.contains }
  refine ⟨fun hfirst hsecond => ⟨rfl, ?_⟩, fun htimed => ?_⟩
  · exact hcounted ((item.leaves_touch now).ok hfirst) ((item.leaves_touch now').ok hsecond)
  · have hfirst := @ensures_touch_of_contains item _ (h.contains.trans htimed) now
    have htimed' := (h.responses.keys _).trans (h.contains.trans htimed)
    have hsecond := @ensures_touch_of_contains item _ htimed' now'
    unfold Alike
    rcases hrun : (item.touch now).run.run first with ⟨error | ⟨⟩, left⟩ <;>
      rcases hrun' : (item.touch now').run.run second with ⟨error' | ⟨⟩, left'⟩
    · obtain ⟨-, rfl, rfl⟩ := hfirst.error hrun
      obtain ⟨-, rfl, rfl⟩ := hsecond.error hrun'
      exact ⟨by rw [h.digest], h⟩
    · exact absurd (h.digest.trans (hsecond.ok hrun').1) (hfirst.error hrun).1
    · exact absurd (h.digest.symm.trans (hfirst.ok hrun).1) (hsecond.error hrun').1
    · exact ⟨rfl, hcounted (hfirst.ok hrun).2 (hsecond.ok hrun').2⟩

/-- Both sessions are closed, each at a time of its own. -/
theorem coincide_close (now now' : Timestamp) :
    Coincide (timed = true) (ItemState.AgreesTimed timed) (item.close now) (item.close now')
      first second := by
  refine (coincide_touch h now now').bind fun _ s t h => Alike.coincide ?_
  rw [alike_get_bind]
  simp only [completion?_eq h]
  split
  · exact (alike_setCompletion h _).bind fun _ _ _ h => ⟨rfl, { h with status := rfl }⟩
  · exact ⟨rfl, { h with status := rfl }⟩

/-- Sessions that agree but for the counters are scored alike, if no limit of attempts is set. -/
theorem coincide_processResponse (hrules : item.definition.ScoresWithoutCounters)
    (now now' : Timestamp) :
    Coincide (timed = true) (ItemState.AgreesTimed timed) (item.processResponse 0 now)
      (item.processResponse 0 now') first second := by
  refine (alike_check h).coincide.bind fun _ _ _ h => ?_
  refine (alike_requireInteracting h).coincide.bind fun _ _ _ h => ?_
  extract_lets stage rules score score'
  have hscore : ∀ u {s t : ItemState}, s.AgreesTimed timed t →
      Coincide (timed = true) (ItemState.AgreesTimed timed) (score u) (score' u) s t := by
    intro u s t h
    simp only [score, score']
    refine (alike_nextEnvironment h).coincide.bind fun environment _ _ h => ?_
    have hrun : Alike (ItemState.AgreesTimed timed)
        ((Rule.execute item.engine stage rules).on environment)
        ((Rule.execute item.engine stage rules).on environment) _ _ :=
      Execution.alike_on ((ItemState.stage_relates_agreesTimed item.engine item.definition
        timed).alike_execute hrules ⟨h, rfl, rfl⟩)
    refine (hrun.rename _).coincide.bind fun answer s t h => ?_
    refine (alike_modify { h with }).coincide.bind fun _ s t h => ?_
    split
    · refine coincide_get_bind ?_
      rw [completion?_eq h]
      split
      · exact (coincide_close h now now').bind fun _ _ _ h => (alike_pure h).coincide
      · exact (alike_pure h).coincide
    · refine (alike_setCompletion h _).coincide.bind fun _ _ _ h => ?_
      exact (alike_pure h).coincide
  split
  · exact (alike_resetOutcomes h).coincide.bind fun _ _ _ h => hscore () h
  · exact hscore () h

end alike

/-! ### Several attempts -/

/-- Attempts that are accepted and scored later change nothing but responses. -/
theorem ensures_deferAll (submissions : List Submission) {state : ItemState} :
    (item.deferAll submissions).Ensures state
      (fun _ left => state.Agrees (item.definition.variableNames .response) left)
      fun _ _ => True := by
  induction submissions generalizing state with
  | nil => exact ItemState.Agrees.refl _ _
  | cons first rest ih =>
    rw [deferAll]
    refine (ensures_run _ state).bind ?_ fun _ _ _ => trivial
    intro log between hrun
    have hfirst := Attempts.answers ⟨log, hrun⟩ rfl
    exact ih.mono (fun _ _ hrest => hfirst.agrees.trans hrest) fun _ _ _ => trivial

/-- A session accepts what another one does that differs in responses at most. -/
theorem Accepts.of_agrees {bound : List (Identifier × Value)} {names : List Identifier}
    {before other : ItemState} (h : item.Accepts bound before)
    (hagrees : other.Agrees names before) : item.Accepts bound other where
  digest := hagrees.digest.trans h.digest
  status := hagrees.status.trans h.status
  templateProcessed := hagrees.templateProcessed.trans h.templateProcessed
  contains name hname := (hagrees.responses.keys name).symm.trans (h.contains name hname)

/-- Binding the same values makes two sessions agree but for the counters, if they differ in nothing
but the responses that are bound and the counters. -/
theorem Binds.agreesTimed {bound : List (Identifier × Value)}
    {before other after changed : ItemState}
    (hbefore : other.Agrees (item.definition.variableNames .response) before)
    (haccepts : item.Accepts bound before)
    (hcomplete : ∀ declaration ∈ item.definition.responses,
      declaration.identifier ∈ bound.map (·.1))
    (h : Binds bound before after) (h' : Binds bound other changed) :
    after.AgreesTimed (other.responses.contains BuiltIn.duration.identifier) changed := by
  have hkeys := h.contains haccepts
  have hkeys' := h'.contains (haccepts.of_agrees hbefore)
  obtain ⟨timed, counted, lastEvent, htimed, hcounted, rfl⟩ := h
  obtain ⟨timed', counted', lastEvent', htimed', hcounted', rfl⟩ := h'
  have hvalues : ∀ name ∉ ItemState.counters, counted'.get? name = counted.get? name := by
    intro name hname
    have hattempts : name ∉ [BuiltIn.numAttempts.identifier] := fun hmem =>
      hname (List.mem_cons.2 (.inl (List.mem_singleton.1 hmem)))
    have hduration : name ∉ [BuiltIn.duration.identifier] := fun hmem =>
      hname (List.mem_cons_of_mem _ hmem)
    rw [hcounted'.values name hattempts, hcounted.values name hattempts]
    refine Store.get?_insertAll_congr ?_
    -- A response that is declared is bound, and any other name is as it was in both sessions.
    by_cases hdeclared : name ∈ item.definition.variableNames .response
    · obtain hdeclared | hcounter := List.mem_append.1 hdeclared
      · obtain ⟨declaration, hdeclaration, rfl⟩ := List.mem_map.1 hdeclared
        exact .inl (hcomplete declaration hdeclaration)
      · exact absurd hcounter hname
    · right
      rw [htimed'.values name hduration, htimed.values name hduration]
      exact (hbefore.responses.values name hdeclared).symm
  have hcontains : ∀ name, counted'.contains name = counted.contains name := fun name =>
    (hkeys' name).trans ((hbefore.responses.keys name).symm.trans (hkeys name).symm)
  refine ⟨⟨hbefore.digest.symm, hbefore.status.symm, hbefore.templateProcessed.symm,
    hbefore.templates.symm, ⟨hcontains, hvalues⟩, hbefore.outcomes.symm,
    hbefore.correctOverrides.symm, hbefore.defaultOverrides.symm, hbefore.seed.symm,
    hbefore.passes.symm⟩, ?_⟩
  exact (hcontains _).symm.trans (hkeys' _)

/-- Several attempts that are all scored later and of which the last one answers every response
variable: scoring afterwards agrees with the last attempt alone, scored at once. Where time can be
counted, either both succeed and report the same, or both fail with the same error. -/
theorem agrees_of_deferAll (hrules : item.definition.ScoresWithoutCounters)
    {earlier : List Submission} {last : Submission}
    (hcomplete : ∀ declaration ∈ item.definition.responses,
      last.responses.contains declaration.identifier = true)
    {state deferred : ItemState}
    (hdeferred : (item.deferAll (earlier ++ [last])).run.run state = (.ok (), deferred))
    (later now : Timestamp) (validate : Bool) :
    Coincide (state.responses.contains BuiltIn.duration.identifier = true)
      (ItemState.Agrees ItemState.counters) (item.processResponse 0 later)
      (item.attempt last.responses now ⟨0, validate, false⟩) deferred state := by
  obtain ⟨before, log, hearlier, hattempt⟩ := exists_attempt_of_deferAll hdeferred
  have hbefore := (ensures_deferAll earlier).ok hearlier
  obtain ⟨bound, after, hbound, haccepts, hbinds, rfl⟩ :=
    (ensures_attempt_binds _ _ _).ok hattempt
  -- The last attempt binds the same values to the session before as to the one it was made on.
  replace hbound := bindResponses_of_complete hcomplete hbound validate
  have hnames : ∀ declaration ∈ item.definition.responses,
      declaration.identifier ∈ bound.map (·.1) := fun declaration hdeclaration =>
    mem_bound_of_contains hbound (hcomplete declaration hdeclaration)
  generalize hcount : state.responses.contains BuiltIn.duration.identifier = timed
  have hscore : ∀ {changed}, Binds bound state changed →
      Coincide (timed = true) (ItemState.AgreesTimed timed) (item.processResponse 0 later)
        (item.processResponse 0 now) { after with pending := true } changed := by
    intro changed hchanged
    have hafter := Binds.agreesTimed hbefore haccepts hnames hbinds hchanged
    rw [hcount] at hafter
    have hpending : ({ after with pending := true } : ItemState).AgreesTimed timed changed :=
      { hafter with }
    exact coincide_processResponse hpending hrules later now
  have halone := @ensures_attempt_binds item last.responses now ⟨0, validate, false⟩ state
  refine ⟨fun hfirst hsecond => ?_, fun htimed => ?_⟩
  · obtain ⟨other, changed, hother, -, hchanged, hrun⟩ := halone.ok hsecond
    obtain rfl := Except.ok.inj (hbound.symm.trans hother)
    obtain ⟨hlog, hagrees⟩ := (hscore hchanged).done hfirst hrun
    exact ⟨hlog, hagrees.toAgrees⟩
  · have hrun : ∃ changed, Binds bound state changed ∧
        (item.attempt last.responses now ⟨0, validate, false⟩).run.run state =
          (item.processResponse 0 now).run.run changed := by
      rcases hrun : (item.attempt last.responses now ⟨0, validate, false⟩).run.run state
        with ⟨error | log, left⟩
      · obtain hmissing | ⟨changed, hchanged, -, hscored⟩ :=
          halone.error hrun bound hbound (haccepts.of_agrees hbefore) rfl
        · exact absurd (hmissing.symm.trans (hcount.trans htimed)) Bool.false_ne_true
        · exact ⟨changed, hchanged, hscored.symm⟩
      · obtain ⟨other, changed, hother, -, hchanged, hscored⟩ := halone.ok hrun
        obtain rfl := Except.ok.inj (hbound.symm.trans hother)
        exact ⟨changed, hchanged, hscored.symm⟩
    obtain ⟨changed, hchanged, hrun⟩ := hrun
    have halike := (hscore hchanged).alike htimed
    unfold Alike at halike ⊢
    rw [hrun]
    exact ⟨halike.1, halike.2.toAgrees⟩

/-- A number that is submitted as a guess. -/
def guessed (number : String) (time : Timestamp) : Submission :=
  let answers := ItemDefinition.guess.responses.map fun declaration =>
    (declaration.identifier, ResponseData.strings [number])
  ⟨.ofList answers, time, true⟩

/-- Two guesses are made that are scored later. Scoring them agrees with the second guess alone,
made at another time and scored at once. -/
theorem agrees_of_deferAll_guess :
    ItemDelivery.guess.definition.ScoresWithoutCounters ∧
      (∀ declaration ∈ ItemDelivery.guess.definition.responses,
        (guessed "3" (.unixMillis 5)).responses.contains declaration.identifier = true) ∧
      ∃ state deferred : ItemState,
        (ItemDelivery.guess.deferAll
          ([guessed "2" (.unixMillis 4)] ++ [guessed "3" (.unixMillis 5)])).run.run state =
          (.ok (), deferred) ∧
        state.responses.contains BuiltIn.duration.identifier = true ∧ deferred.attempts = 2 ∧
        Coincide (state.responses.contains BuiltIn.duration.identifier = true)
          (ItemState.Agrees ItemState.counters)
          (ItemDelivery.guess.processResponse 0 (.unixMillis 6))
          (ItemDelivery.guess.attempt (guessed "3" (.unixMillis 5)).responses (.unixMillis 3)
            ⟨0, true, false⟩) deferred state := by
  have hrules : ItemDelivery.guess.definition.ScoresWithoutCounters := by
    unfold ItemDefinition.ScoresWithoutCounters Rule.Admitted
    decide +kernel
  have hcomplete : ∀ declaration ∈ ItemDelivery.guess.definition.responses,
      (guessed "3" (.unixMillis 5)).responses.contains declaration.identifier = true := by
    decide +kernel
  have hsession : (ItemDelivery.guess.sessionAfter .empty 7
      [.processTemplate, .enter (.unixMillis 0)]).any (fun state =>
        let answer := (ItemDelivery.guess.deferAll
          ([guessed "2" (.unixMillis 4)] ++ [guessed "3" (.unixMillis 5)])).run.run state
        state.responses.contains BuiltIn.duration.identifier && answer.1.isOk &&
          answer.2.attempts = 2) = true := by
    decide +kernel
  obtain ⟨state, -, hstate⟩ := (Option.any_eq_true _ _).1 hsession
  rcases hdeferred : (ItemDelivery.guess.deferAll
    ([guessed "2" (.unixMillis 4)] ++ [guessed "3" (.unixMillis 5)])).run.run state
    with ⟨error | ⟨⟩, deferred⟩
  · simp only [hdeferred, Except.isOk, Except.toBool, Bool.and_false, Bool.false_and,
      Bool.false_eq_true] at hstate
  · simp only [hdeferred, Bool.and_eq_true, decide_eq_true_eq] at hstate
    obtain ⟨⟨hcontains, -⟩, hattempts⟩ := hstate
    exact ⟨hrules, hcomplete, state, deferred, hdeferred, hcontains, hattempts,
      agrees_of_deferAll hrules hcomplete hdeferred (.unixMillis 6) (.unixMillis 3) true⟩

end ItemDelivery

end Assessment
