import Assessment.Proofs.Nothing.Evaluation
import Assessment.Test.View

/-!
# Sessions in which nothing is held in several ways

Rules look at values through expressions, and at what they assign: whether it conforms to the
variable, and what a table has for it. Neither depends on how a value holds nothing. Sessions that
differ only so therefore take the same course through all rules, and differ only so afterwards.

## Main definitions

- `TestState.Akin`: test sessions that differ only in how some values hold nothing.
- `Stage.Overlooks`: a relation of sessions that differ only so.
- `Stage.Interchanges`: what is to be shown of two sessions.

## Main results

- `Stage.Overlooks.interchanges`: expressions and rules do not tell related sessions apart.
- `akin_interchanges`: those of items and of tests.
-/

namespace Assessment

open Action Execution

variable {σ : Type}

/-- On a stage, sessions that are related differ only in how some values, defaults or correct
answers hold nothing, and assignments of values that are akin keep them related. -/
structure Stage.Overlooks (stage : Stage σ) (related : σ → σ → Prop) : Prop where
  /-- What expressions see is akin. -/
  view : ∀ {s t}, related s t → (stage.view s).Akin (stage.view t)
  /-- Assigning a value keeps the relation. -/
  assign : ∀ {s t value value'} name, related s t → value.Akin value' →
    Matches related (stage.assign name value s) (stage.assign name value' t)
  /-- Changing a correct answer keeps the relation. -/
  setCorrect : ∀ {s t value value' overrides} name, stage.overrides = some overrides →
    related s t → value.Akin value' →
    Matches related (overrides.setCorrect name value s) (overrides.setCorrect name value' t)
  /-- Changing a default keeps the relation. -/
  setDefault : ∀ {s t value value' overrides} name, stage.overrides = some overrides →
    related s t → value.Akin value' →
    Matches related (overrides.setDefault name value s) (overrides.setDefault name value' t)
  /-- A new start keeps the relation. -/
  restart : ∀ s t, related s t → Alike related stage.restart stage.restart s t

namespace Stage.Overlooks

variable {stage : Stage σ} {related : σ → σ → Prop} (hstage : stage.Overlooks related)
  {engine : Engine} {first second : Run σ}
  (h : first.Related Environment.Akin related second)

include hstage

theorem couple_prepare {s t : σ} (hst : related s t) {value value' : Value}
    (hvalue : value.Akin value') (target : Target) (name : Identifier) :
    Couple Value.Akin (fun problem problem' => problem.message = problem'.message)
      (prepare stage s target name value) (prepare stage t target name value') := by
  unfold prepare
  rw [(hstage.view hst).declaration?]
  cases stage.assignable? name with
  | none => exact couple_ite (fun _ => rfl) fun _ => rfl
  | some declaration => exact couple_prepareFor hvalue target name declaration

include h

theorem coupled_valueOf? {expression : Expression} (hexpression : expression.IsBuiltIn)
    (source : String) :
    Coupled (Run.Related Environment.Akin related) (Option.Rel Value.Akin) Eq
      (valueOf? engine stage source expression) (valueOf? engine stage source expression) first
      second := by
  have hboth : Coupled Environment.Akin Value.Akin Eq
      (expression.tryEvaluate engine (stage.view first.session))
      (expression.tryEvaluate engine (stage.view second.session)) first.environment
      second.environment :=
    (hstage.view h.session).coupled_tryEvaluate hexpression h.environment
  obtain ⟨hresult, hleft⟩ := hboth
  simp only [valueOf?, coupled_get_bind]
  generalize (expression.tryEvaluate engine (stage.view first.session)).run.run
    first.environment = answer at hresult hleft
  generalize (expression.tryEvaluate engine (stage.view second.session)).run.run
    second.environment = answer' at hresult hleft
  obtain ⟨fault | value, environment⟩ := answer <;>
    obtain ⟨fault' | value', environment'⟩ := answer'
  · obtain rfl : fault = fault' := hresult
    rw [coupled_set_bind]
    cases fault with
    | logic error => exact coupled_throw rfl ⟨h.session, hleft, h.relaxed⟩
    | runtime error =>
      exact coupled_modify_bind.2
        (coupled_pure .none ⟨h.session, hleft.record (.refl _), h.relaxed⟩)
  · exact hresult.elim
  · exact hresult.elim
  · exact coupled_set_bind.2 (coupled_pure (.some hresult) ⟨h.session, hleft, h.relaxed⟩)

/-- A test is true in both sessions, or in neither. -/
theorem alike_isTrue {test : Expression} (htest : test.IsBuiltIn) (source : String) :
    Alike (Run.Related Environment.Akin related) (isTrue engine stage source test)
      (isTrue engine stage source test) first second := by
  refine alike_iff_coupled.2 ((hstage.coupled_valueOf? h htest source).bind ?_)
  intro value value' left left' hvalue hleft
  cases hvalue with
  | none => exact coupled_pure rfl hleft
  | @some value value' hvalue =>
    dsimp only
    rw [hvalue.isNull_eq]
    refine coupled_ite (fun _ => coupled_pure rfl hleft) fun hnull => ?_
    -- A value that is something is the same in both sessions.
    obtain rfl := hvalue.eq_of_isNull (Bool.not_eq_true _ ▸ hnull)
    cases value'.bool? with
    | some truth => exact coupled_pure rfl hleft
    | none =>
      exact coupled_modify_bind.2
        (coupled_pure rfl ⟨hleft.session, hleft.environment.record (.refl _), hleft.relaxed⟩)

/-- Values that are akin are assigned, or both are refused with the same words. -/
theorem alike_assign {expression : Expression} (hexpression : expression.IsBuiltIn)
    (target : Target) (name : Identifier) :
    Alike (Run.Related Environment.Akin related)
      (Execution.assign engine stage target name expression)
      (Execution.assign engine stage target name expression) first second := by
  refine alike_iff_coupled.2 ((hstage.coupled_valueOf? h hexpression _).bind ?_)
  intro given given' left left' hgiven hleft
  cases hgiven with
  | none => exact coupled_pure rfl hleft
  | @some given given' hgiven =>
    rw [coupled_get_bind]
    have hvalue := hstage.couple_prepare hleft.session hgiven target name
    generalize prepare stage left.session target name given = result,
      prepare stage left'.session target name given' = result' at hvalue
    obtain problem | value := result <;> obtain problem' | value' := result'
    · have hproblem : problem.message = problem'.message := hvalue
      exact coupled_modify rfl
        ⟨hleft.session, hleft.environment.record ⟨rfl, rfl, rfl, hproblem.symm⟩, hleft.relaxed⟩
    · exact hvalue.elim
    · exact hvalue.elim
    · refine alike_iff_coupled.1 (alike_write (fun _ henvironment => henvironment.record (.refl _))
        hleft _ _ (hstage.assign name hleft.session hvalue) ?_ ?_)
      · exact fun _ hover => hstage.setCorrect name hover hleft.session hvalue
      · exact fun _ hover => hstage.setDefault name hover hleft.session hvalue

omit h

/-- Tests and assignments come to the same in related sessions. -/
theorem parallels (engine : Engine) :
    stage.Parallels engine engine Expression.IsBuiltIn Environment.Akin related where
  attempts := rfl
  record _ henvironment := henvironment.record (.refl _)
  isTrue htest h := hstage.alike_isTrue h htest _
  assign hexpression h := hstage.alike_assign h hexpression _ _

end Stage.Overlooks

/-- No expression without operators of extensions, and no rules with such expressions, tell two
sessions apart. What rules leave is related. -/
structure Stage.Interchanges (engine : Engine) (stage : Stage σ) (related : σ → σ → Prop)
    (s t : σ) : Prop where
  /-- An expression has values that are akin, or the same fault. The same random numbers are drawn,
  and the same is reported. -/
  tryEvaluate : ∀ (expression : Expression) (environment : Environment), expression.IsBuiltIn →
    Coupled Environment.Akin Value.Akin Eq (expression.tryEvaluate engine (stage.view s))
      (expression.tryEvaluate engine (stage.view t)) environment environment
  /-- This is so as well where faults are recorded, and count as nothing. -/
  evaluate : ∀ (expression : Expression) (environment : Environment), expression.IsBuiltIn →
    Coupled Environment.Akin Value.Akin Eq (expression.evaluate engine (stage.view s))
      (expression.evaluate engine (stage.view t)) environment environment
  /-- Rules that are run once come to the same, and leave what is related. -/
  execute : ∀ (rules : List Rule) (environment : Environment) (relaxed : Bool),
    Rule.Admitted Expression.IsBuiltIn (Rule.walkAll rules) →
    Alike (Run.Related Environment.Akin related) (Rule.execute engine stage rules)
      (Rule.execute engine stage rules) ⟨s, environment, relaxed⟩ ⟨t, environment, relaxed⟩
  /-- So does template processing, through all its passes. -/
  executeTemplate : ∀ (rules : List Rule) (environment : Environment) (relaxed : Bool),
    Rule.Admitted Expression.IsBuiltIn (Rule.walkAll rules) →
    Alike (Run.Related Environment.Akin related) (Rule.executeTemplate engine stage rules)
      (Rule.executeTemplate engine stage rules) ⟨s, environment, relaxed⟩
      ⟨t, environment, relaxed⟩

/-- Sessions that differ only in how values hold nothing are not told apart. -/
theorem Stage.Overlooks.interchanges {stage : Stage σ} {related : σ → σ → Prop}
    (hstage : stage.Overlooks related) (engine : Engine) {s t : σ} (hst : related s t) :
    stage.Interchanges engine related s t where
  tryEvaluate _ environment hexpression :=
    (hstage.view hst).coupled_tryEvaluate hexpression (.refl environment)
  evaluate _ environment hexpression :=
    (hstage.view hst).coupled_evaluate hexpression (.refl environment)
  execute _ environment _ hrules :=
    (hstage.parallels engine).alike_execute hrules ⟨hst, .refl environment, rfl⟩
  executeTemplate _ environment _ hrules :=
    (hstage.parallels engine).alike_executeTemplate hstage.restart hrules
      ⟨hst, .refl environment, rfl⟩

/-! ### Items -/

/-- Values that are akin are put into stores that are, or there is no such variable in either. -/
theorem matches_set {store store' : Store} (h : store.Akin store') {value value' : Value}
    (hvalue : value.Akin value') (name : Identifier) :
    Matches Store.Akin (store.set name value) (store'.set name value') := by
  have hcontains : store'.contains name = store.contains name := by
    have hget := h.get? name
    unfold SortedMap.contains
    generalize store.get? name = given, store'.get? name = given' at hget
    cases hget <;> rfl
  unfold Store.set
  rw [hcontains]
  split
  next => exact h.insert name hvalue
  next => rfl

namespace ItemState

variable {s t : ItemState} (definition : ItemDefinition)

theorem Akin.setStore (h : s.Akin t) (role : Role) {store store' : Store}
    (hstore : store.Akin store') : (s.setStore role store).Akin (t.setStore role store') := by
  have hframe (state : ItemState) (store : Store) :
      (state.setStore role store).frame = state.frame := by
    cases role <;> rfl
  have hrest : (t.setStore role store').frame = (s.setStore role store).frame := by
    rw [hframe, hframe, h.frame]
  cases role with
  | template => exact { h with templates := hstore, frame := hrest }
  | response => exact { h with responses := hstore, frame := hrest }
  | outcome => exact { h with outcomes := hstore, frame := hrest }

theorem Akin.view (h : s.Akin t) :
    (ItemState.view definition s).Akin (ItemState.view definition t) where
  declaration? := rfl
  value := h.couple_read definition
  defaultValue := h.couple_readDefault definition
  correctValue := h.couple_readCorrect definition
  weight? := rfl
  items _ := rfl

theorem Akin.templateStart (h : s.Akin t) (declaration : TemplateDeclaration) :
    (s.templateStart declaration).Akin (t.templateStart declaration) := by
  unfold ItemState.templateStart
  have hgiven := h.templateDefaults.get? declaration.identifier
  generalize s.templateDefaults.get? declaration.identifier = given,
    t.templateDefaults.get? declaration.identifier = given' at hgiven
  cases hgiven with
  | none => exact .refl _
  | some hgiven => exact hgiven

/-- Several variables are set to values that are akin. -/
theorem alike_setAll (role : Role) {given given' : List (Identifier × Value)}
    (hgiven : List.Forall₂ (fun pair pair' => pair.1 = pair'.1 ∧ pair.2.Akin pair'.2) given given')
    (h : s.Akin t) : Alike Akin (setAll role given) (setAll role given') s t := by
  induction hgiven generalizing s t with
  | nil => exact alike_pure h
  | @cons pair pair' _ _ hpair _ ih =>
    obtain ⟨name, value⟩ := pair
    obtain ⟨_, value'⟩ := pair'
    obtain ⟨rfl, hvalue⟩ := hpair
    rw [setAll, setAll, alike_get_bind]
    have hset := matches_set (h.store role) hvalue name
    generalize (s.store role).set name value = result,
      (t.store role).set name value' = result' at hset
    match result, result', hset with
    | .error _, .error _, rfl => exact alike_throw h
    | .ok _, .ok _, hstore => exact alike_set_bind.2 (ih (h.setStore role hstore))

/-- Template variables start again with values that are akin. -/
theorem Akin.alike_restartTemplates (h : s.Akin t) :
    Alike Akin (restartTemplates definition) (restartTemplates definition) s t := by
  rw [restartTemplates, alike_get_bind]
  refine alike_setAll .template ?_ h
  rw [List.forall₂_map_left_iff, List.forall₂_map_right_iff, List.forall₂_same]
  exact fun declaration _ => ⟨rfl, h.templateStart declaration⟩

theorem overlooks_stage : (stage definition).Overlooks Akin where
  view h := h.view definition
  assign name h hvalue := by
    change Matches Akin (ItemState.assign definition name _ _)
      (ItemState.assign definition name _ _)
    unfold ItemState.assign
    cases declared definition name with
    | error error => rfl
    | ok declaration =>
      refine (matches_set (h.store declaration.role) hvalue name).bind fun _ _ hstore => ?_
      exact h.setStore declaration.role hstore
  setCorrect {_ _ _ _ overrides} name hover h hvalue := by
    cases hover
    change Matches Akin (ItemState.setCorrect definition name _ _)
      (ItemState.setCorrect definition name _ _)
    unfold ItemState.setCorrect
    split
    next => rfl
    next => exact { h with correctOverrides := h.correctOverrides.insert name hvalue }
  setDefault name hover h hvalue := by
    cases hover
    change Matches Akin (ItemState.setDefault definition name _ _)
      (ItemState.setDefault definition name _ _)
    unfold ItemState.setDefault
    cases declared definition name with
    | error error => rfl
    | ok declaration => exact { h with defaultOverrides := h.defaultOverrides.insert name hvalue }
  restart _ _ h := h.alike_restartTemplates definition

end ItemState

/-! ### Tests -/

namespace TestState

/-- What a test session keeps apart from the sessions of its items and from values. -/
def frame (state : TestState) : TestState := { state with items := .empty, outcomes := .empty }

/-- Two sessions of a test differ only in how some values, defaults or correct answers of the test
or of its items hold nothing. -/
structure Akin (s t : TestState) : Prop where
  /-- The sessions of the items are akin. -/
  items : SortedMap.Forall₂ ItemState.Akin s.items t.items
  /-- The values of outcome variables are akin. -/
  outcomes : s.outcomes.Akin t.outcomes
  /-- All the rest is the same. -/
  frame : t.frame = s.frame

variable {s t : TestState} (test : TestDefinition)

theorem Akin.plan (h : s.Akin t) : t.plan = s.plan := by
  change t.frame.plan = s.frame.plan
  rw [h.frame]

theorem Akin.view (h : s.Akin t) : (TestState.view test s).Akin (TestState.view test t) where
  declaration? := declaration?_congr h.items test
  value name := by
    change Couple Value.Akin Eq (s.read test name) (t.read test name)
    unfold TestState.read
    cases ownDeclaration? test name with
    | some _ => exact couple_value h.outcomes name
    | none =>
      exact couple_readQualified h.items test name fun definition _ _ inner hsession =>
        hsession.couple_read definition inner
  defaultValue name := by
    change Couple Value.Akin Eq (s.readDefault test name) (t.readDefault test name)
    unfold TestState.readDefault
    cases ownDeclaration? test name with
    | some declaration => exact .refl (declaration.defaultValue.getD .null)
    | none =>
      exact couple_readQualified h.items test name fun definition _ _ inner hsession =>
        hsession.couple_readDefault definition inner
  correctValue name := by
    change Couple Value.Akin Eq (s.readCorrect test name) (t.readCorrect test name)
    unfold TestState.readCorrect
    cases ownDeclaration? test name with
    | some _ => exact .refl .null
    | none =>
      exact couple_readQualified h.items test name fun definition _ _ inner hsession =>
        hsession.couple_readCorrect definition inner
  weight? := weight?_congr h.items test
  items _ := couple_testItems h.items test h.plan

theorem overlooks_stage : (stage test).Overlooks Akin where
  view h := h.view test
  assign name h hvalue := by
    change Matches Akin (TestState.assign test name _ _) (TestState.assign test name _ _)
    unfold TestState.assign
    split
    next => rfl
    next =>
      refine (matches_set h.outcomes hvalue name).bind fun _ _ hstore => ?_
      exact { h with outcomes := hstore }
  setCorrect _ hover := nomatch hover
  setDefault _ hover := nomatch hover
  restart _ _ h := alike_throw h

end TestState

/-! ### Sessions that are not told apart -/

/-- **All ways of holding nothing are one.** Two sessions of an item or of a test that differ only
in how some values, defaults or correct answers hold nothing are not told apart by expressions and
rules without operators of extensions: values, reports and random numbers are the same up to how
values hold nothing, and so are the sessions that are left. -/
theorem akin_interchanges (engine : Engine) :
    (∀ (definition : ItemDefinition) (s t : ItemState), s.Akin t →
      (ItemState.stage definition).Interchanges engine ItemState.Akin s t) ∧
    ∀ (test : TestDefinition) (s t : TestState), s.Akin t →
      (TestState.stage test).Interchanges engine TestState.Akin s t :=
  ⟨fun definition _ _ => (ItemState.overlooks_stage definition).interchanges engine,
    fun test _ _ => (TestState.overlooks_stage test).interchanges engine⟩

end Assessment
