import Assessment.Proofs.Item.Maintained
import Assessment.Proofs.Template.Residue
import Assessment.Proofs.Test.Request

/-!
# What rules write

A rule writes into one slot of a session: the value of a variable, a correct answer or a default, of
the name that it gives. What a list of rules leaves of a session therefore differs from the session
before in slots at most that some rule of the list names, however deeply the rule is nested, and
whichever of the rules are run at all. Variables that the session maintains are not written, even
where a rule names them.

Rules of a test write declared outcomes of the test and nothing else. An outcome that a test
declares under the name of the time that it counts is such an outcome, though validation reports it.

## Main definitions

- `Stage.Writes`: what a rule may make of a session when it writes a value.
- `ItemState.Slot`: where rules write in an item session.
- `Rule.Names`: some rule of a list names a slot.
- `ItemState.Written` and `TestState.Written`: what a list of rules may have made of a session.

## Main results

- `Stage.leaves_execute_of_writes`: runs of rules keep what their writes keep.
- `Rule.leaves_only_named`: what runs of rules leave as it was.
- `TestDelivery.not_forall_duration_eq`: rules may change the time of a test that declares it.
-/

namespace Assessment

open Action

variable {σ : Type}

/-! ### Writes -/

/-- What a rule that writes a value for a target under a name may make of a session. -/
inductive Stage.Writes (stage : Stage σ) (name : Identifier) (value : Value) (before : σ) :
    Target → σ → Prop where
  /-- A correct answer or a default is not written where declarations are not changed. -/
  | nothing {target : Target} : target.isOverride = true → stage.overrides = none →
    Writes stage name value before target before
  /-- The value of a variable is written. -/
  | value {target : Target} {after : σ} : target.isOverride = false →
    stage.assign name value before = .ok after → Writes stage name value before target after
  /-- A correct answer is written. -/
  | correctResponse {overrides : Overrides σ} {after : σ} : stage.overrides = some overrides →
    overrides.setCorrect name value before = .ok after →
    Writes stage name value before .correctResponse after
  /-- A default is written. -/
  | defaultValue {overrides : Overrides σ} {after : σ} : stage.overrides = some overrides →
    overrides.setDefault name value before = .ok after →
    Writes stage name value before .defaultValue after

/-- A rule that writes makes of the session what its write may make of it, or leaves it as it is. -/
theorem Execution.ensures_write_writes (stage : Stage σ) (source : String) (target : Target)
    (name : Identifier) (value : Value) (run : Run σ) :
    (write stage source target name value).Ensures run
      (fun _ left => stage.Writes name value run.session target left.session)
      fun _ left => left.session = run.session := by
  refine ensures_write_of .nothing (fun htarget => ?_) (fun overrides htarget hover => ?_)
    fun overrides htarget hover => ?_
  · exact ensures_change_iff.2 (yields_iff.2 ⟨fun _ hafter => .value htarget hafter,
      fun _ _ => rfl⟩)
  · subst htarget
    exact ensures_change_iff.2 (yields_iff.2 ⟨fun _ hafter => .correctResponse hover hafter,
      fun _ _ => rfl⟩)
  · subst htarget
    exact ensures_change_iff.2 (yields_iff.2 ⟨fun _ hafter => .defaultValue hover hafter,
      fun _ _ => rfl⟩)

/-- What is kept by all that the rules of a list write is carried by them, however they end. -/
theorem Stage.carries_of_writes (engine : Engine) {stage : Stage σ} {admits : Rule → Prop}
    {keeps : σ → Prop}
    (hwrites : ∀ {target name expression given value before after},
      admits (.assign target name expression) → keeps before →
      prepare stage before target name given = .ok value →
      stage.Writes name value before target after → keeps after) :
    stage.Carries engine admits (fun _ => True) (fun run => keeps run.session)
      fun _ run => keeps run.session where
  evaluate _ _ hrun := by
    refine (ensures_run _ _).mono (fun _ _ _ => ⟨trivial, hrun⟩) fun fault _ _ => ?_
    cases fault with
    | logic error => exact hrun
    | runtime fault => exact fun _ => hrun
  notBoolean hrun := hrun
  refuse _ hrun _ := hrun
  write {target name _ run source _ value} hrule hrun _ hvalue :=
    (Execution.ensures_write_writes stage source target name value run).mono
      (fun _ _ hleft => hwrites hrule hrun hvalue hleft) fun _ left hleft => by rwa [hleft]
  warn _ hrun := hrun
  relax _ hrun := hrun

/-- Running rules once leaves what is kept by all that they write, however the run ends. -/
theorem Stage.leaves_execute_of_writes {engine : Engine} {stage : Stage σ} {rules : List Rule}
    {keeps : σ → Prop} {session : σ} (environment : Environment) (hsession : keeps session)
    (hwrites : ∀ {target name expression given value before after},
      .assign target name expression ∈ Rule.walkAll rules → keeps before →
      prepare stage before target name given = .ok value →
      stage.Writes name value before target after → keeps after) :
    ((Rule.execute engine stage rules).on environment).Leaves session keeps :=
  Execution.ensures_on_iff.2 ((carries_of_writes engine hwrites).ensures_execute
    (fun _ hrule => hrule) hsession)

/-! ### Slots of items -/

namespace ItemState

/-- Where rules write in an item session. -/
inductive Slot where
  /-- The values of the variables of a role. -/
  | value (role : Role)
  /-- The correct answers that stand in place of those declared. -/
  | correctResponse
  /-- The defaults that stand in place of those declared. -/
  | defaultValue

/-- What a session has in a slot, by names. -/
def slot (state : ItemState) : Slot → Store
  | .value role => state.store role
  | .correctResponse => state.correctOverrides
  | .defaultValue => state.defaultOverrides

end ItemState

/-- The slot that a rule for a target writes into. -/
def Target.slot : Target → ItemState.Slot
  | outcomeValue | lookupOutcome => .value .outcome
  | responseValue => .value .response
  | templateValue => .value .template
  | correctResponse => .correctResponse
  | defaultValue => .defaultValue

/-- The value of a variable is written into the store of a role that the target admits. -/
theorem Target.slot_eq_value {target : Target} {role : Role} (htarget : target.isOverride = false)
    (hrole : role ∈ target.roles) : target.slot = .value role := by
  cases target with
  | outcomeValue | responseValue | templateValue | lookupOutcome =>
    rw [List.mem_singleton.1 hrole]
    rfl
  | correctResponse | defaultValue => cases htarget

/-- Some rule of a list names a slot: it assigns a target that is written there, under the name,
and may be nested to any depth. -/
def Rule.Names (rules : List Rule) (slot : ItemState.Slot) (name : Identifier) : Prop :=
  ∃ target expression, target.slot = slot ∧ .assign target name expression ∈ walkAll rules

namespace ItemState

variable {definition : ItemDefinition} {before between after : ItemState} {rules : List Rule}
  {target : Target} {name : Identifier} {given value : Value}

/-- What rules may have made of a session: they wrote into slots that they name, under names of
variables that the session does not maintain. -/
structure Written (rules : List Rule) (before after : ItemState) : Prop where
  /-- Nothing else is changed. -/
  rewritten : before.Rewritten after
  /-- What is changed in a slot is named. -/
  slots : ∀ slot name, (after.slot slot).get? name = (before.slot slot).get? name ∨
    Rule.Names rules slot name ∧
      ∀ builtIn, isMaintained (.builtIn builtIn) = true → name ≠ builtIn.identifier

theorem Written.refl (rules : List Rule) (state : ItemState) : state.Written rules state :=
  ⟨.refl state, fun _ _ => .inl rfl⟩

theorem Written.trans (h : before.Written rules between) (h' : between.Written rules after) :
    before.Written rules after where
  rewritten := h.rewritten.trans h'.rewritten
  slots slot name := by
    obtain heq' | hnamed := h'.slots slot name
    · rw [heq']
      exact h.slots slot name
    · exact .inr hnamed

/-- A write changes one slot under one name. -/
theorem slot_of_writes (hprepared : prepare (stage definition) before target name given = .ok value)
    (hwrites : (stage definition).Writes name value before target after) :
    before.Rewritten after ∧ ∀ slot other, slot = target.slot ∧ other = name ∨
      (after.slot slot).get? other = (before.slot slot).get? other := by
  obtain ⟨declaration, hname, hprepared⟩ := exists_of_prepare hprepared
  cases hwrites with
  | nothing _ hover => cases hover
  | value htarget hassign =>
    obtain ⟨found, store, hfound, hset, rfl⟩ := exists_of_assign hassign
    obtain rfl := Option.some.inj (hname.symm.trans hfound)
    have hslot := Target.slot_eq_value htarget (role_of_prepareFor hprepared)
    refine ⟨rewritten_setStore _ _, fun slot other => ?_⟩
    cases slot with
    | value role =>
      by_cases hrole : role = declaration.role
      · subst hrole
        refine (em (other = name)).imp (⟨hslot.symm, ·⟩) fun hother => ?_
        rw [slot, slot, store_setStore_self]
        exact (Store.sameBut_of_set hset).values other fun hmem =>
          hother (List.mem_singleton.1 hmem)
      · right
        rw [slot, slot, store_setStore_of_ne hrole]
    | correctResponse | defaultValue => exact .inr (by cases declaration.role <;> rfl)
  | correctResponse hover hcorrect =>
    cases hover
    obtain rfl := eq_of_setCorrect hcorrect
    refine ⟨⟨_, _, _, _, _, rfl⟩, fun slot other => ?_⟩
    cases slot with
    | value role => exact .inr (by cases role <;> rfl)
    | correctResponse =>
      exact (em (other = name)).imp (⟨rfl, ·⟩) (SortedMap.get?_insert_of_ne _ · _)
    | defaultValue => exact .inr rfl
  | defaultValue hover hdefault =>
    cases hover
    obtain rfl := eq_of_setDefault hdefault
    refine ⟨⟨_, _, _, _, _, rfl⟩, fun slot other => ?_⟩
    cases slot with
    | value role => exact .inr (by cases role <;> rfl)
    | correctResponse => exact .inr rfl
    | defaultValue => exact (em (other = name)).imp (⟨rfl, ·⟩) (SortedMap.get?_insert_of_ne _ · _)

/-- A write of a rule in a list is one of the list. -/
theorem written_of_writes {expression : Expression}
    (hrule : .assign target name expression ∈ Rule.walkAll rules)
    (hprepared : prepare (stage definition) before target name given = .ok value)
    (hwrites : (stage definition).Writes name value before target after) :
    before.Written rules after := by
  obtain ⟨hrewritten, hslots⟩ := slot_of_writes hprepared hwrites
  obtain ⟨declaration, hname, hprepared⟩ := exists_of_prepare hprepared
  refine ⟨hrewritten, fun slot other => ?_⟩
  obtain ⟨rfl, rfl⟩ | heq := hslots slot other
  · exact .inr ⟨⟨target, expression, rfl, hrule⟩, fun builtIn hmaintained =>
      ItemDefinition.ne_of_prepareFor hmaintained hname hprepared⟩
  · exact .inl heq

/-- What a run of rules leaves of a session is what they may have written. -/
theorem leaves_execute_written (engine : Engine) (definition : ItemDefinition) (rules : List Rule)
    (environment : Environment) (state : ItemState) :
    ((Rule.execute engine (stage definition) rules).on environment).Leaves state
      (state.Written rules) :=
  Stage.leaves_execute_of_writes environment (.refl rules state)
    fun hrule hbefore hprepared hwrites =>
      hbefore.trans (written_of_writes hrule hprepared hwrites)

end ItemState

/-! ### Outcomes of tests -/

namespace TestState

variable {test : TestDefinition} {before between after : TestState} {rules : List Rule}
  {target : Target} {name : Identifier} {given value : Value}

/-- What rules may have made of a session of a test: they wrote declared outcomes that they name. -/
structure Written (test : TestDefinition) (rules : List Rule) (before after : TestState) :
    Prop where
  /-- Nothing else is changed. -/
  outcomes : ∃ outcomes, after = { before with outcomes }
  /-- What is changed is declared, and named. -/
  named : ∀ name, after.outcomes.get? name = before.outcomes.get? name ∨
    (test.outcome? name).isSome = true ∧ Rule.Names rules (.value .outcome) name

theorem Written.refl (test : TestDefinition) (rules : List Rule) (state : TestState) :
    state.Written test rules state :=
  ⟨⟨_, rfl⟩, fun _ => .inl rfl⟩

theorem Written.trans (h : before.Written test rules between)
    (h' : between.Written test rules after) : before.Written test rules after where
  outcomes := by
    obtain ⟨_, rfl⟩ := h.outcomes
    obtain ⟨outcomes, rfl⟩ := h'.outcomes
    exact ⟨outcomes, rfl⟩
  named name := by
    obtain heq' | hnamed := h'.named name
    · rw [heq']
      exact h.named name
    · exact .inr hnamed

/-- An assignment changes the outcome of its name, which is declared. -/
theorem exists_of_assign (h : before.assign test name value = .ok after) :
    (test.outcome? name).isSome = true ∧ ∃ outcomes,
      Store.SameBut [name] before.outcomes outcomes ∧ after = { before with outcomes } := by
  unfold assign at h
  cases hname : test.outcome? name with
  | none =>
    rw [hname] at h
    cases h
  | some declaration =>
    rw [hname] at h
    change before.outcomes.set name value >>= _ = _ at h
    cases hset : before.outcomes.set name value with
    | error error =>
      rw [hset] at h
      cases h
    | ok outcomes =>
      rw [hset] at h
      cases h
      exact ⟨rfl, outcomes, Store.sameBut_of_set hset, rfl⟩

/-- A write of a rule in a list is one of the list. -/
theorem written_of_writes {expression : Expression}
    (hrule : .assign target name expression ∈ Rule.walkAll rules)
    (hprepared : prepare (stage test) before target name given = .ok value)
    (hwrites : (stage test).Writes name value before target after) :
    before.Written test rules after := by
  obtain ⟨declaration, hname, hprepared⟩ := exists_of_prepare hprepared
  cases hwrites with
  | nothing => exact .refl _ _ _
  | value htarget hassign =>
    obtain ⟨hdeclared, outcomes, houtcomes, rfl⟩ := exists_of_assign hassign
    -- What a name means to the rules of a test is an outcome.
    have hrole : declaration.role = .outcome := by
      obtain ⟨_, _, rfl⟩ := Option.map_eq_some_iff.1 hname
      rfl
    have hslot := Target.slot_eq_value htarget (hrole ▸ role_of_prepareFor hprepared)
    refine ⟨⟨outcomes, rfl⟩, fun other => ?_⟩
    by_cases hother : other = name
    · exact .inr (hother ▸ ⟨hdeclared, target, expression, hslot, hrule⟩)
    · exact .inl (houtcomes.values other fun hmem => hother (List.mem_singleton.1 hmem))
  | correctResponse hover => cases hover
  | defaultValue hover => cases hover

/-- What a run of rules leaves of a session is what they may have written. -/
theorem leaves_execute_written (engine : Engine) (test : TestDefinition) (rules : List Rule)
    (environment : Environment) (state : TestState) :
    ((Rule.execute engine (stage test) rules).on environment).Leaves state
      (state.Written test rules) :=
  Stage.leaves_execute_of_writes environment (.refl test rules state)
    fun hrule hbefore hprepared hwrites =>
      hbefore.trans (written_of_writes hrule hprepared hwrites)

end TestState

/-! ### What is not named -/

/-- However a run of rules ends, it leaves everything as it was that the rules do not name. In a
session of an item it leaves what the session maintains, and in a session of a test everything but
declared outcomes: the time of the test too, unless that is declared. -/
theorem Rule.leaves_only_named (engine : Engine) (rules : List Rule) (environment : Environment) :
    (∀ (definition : ItemDefinition) (state : ItemState),
      ((execute engine (ItemState.stage definition) rules).on environment).Leaves state fun left =>
        state.Rewritten left ∧
        (∀ slot name, ¬Names rules slot name →
          (left.slot slot).get? name = (state.slot slot).get? name) ∧
        ∀ slot (builtIn : BuiltIn), builtIn.role = .response →
          (left.slot slot).get? builtIn.identifier =
            (state.slot slot).get? builtIn.identifier) ∧
    ∀ (test : TestDefinition) (state : TestState),
      ((execute engine (TestState.stage test) rules).on environment).Leaves state fun left =>
        (∃ outcomes, left = { state with outcomes }) ∧
        (∀ name, test.outcome? name = none ∨ ¬Names rules (.value .outcome) name →
          left.outcomes.get? name = state.outcomes.get? name) ∧
        (test.outcome? BuiltIn.duration.identifier = none →
          left.outcomes.get? BuiltIn.duration.identifier =
            state.outcomes.get? BuiltIn.duration.identifier) := by
  refine ⟨fun definition state => ?_, fun test state => ?_⟩
  · refine Leaves.mono (ItemState.leaves_execute_written engine definition rules environment state)
      fun left hleft => ⟨hleft.rewritten, fun slot name hname => ?_, fun slot builtIn hrole => ?_⟩
    · exact (hleft.slots slot name).resolve_right fun hnamed => hname hnamed.1
    · exact (hleft.slots slot builtIn.identifier).resolve_right fun hnamed =>
        hnamed.2 builtIn (BuiltIn.isMaintained_of_role hrole) rfl
  · refine Leaves.mono (TestState.leaves_execute_written engine test rules environment state)
      fun left hleft => ?_
    have hkept : ∀ name, test.outcome? name = none ∨ ¬Names rules (.value .outcome) name →
        left.outcomes.get? name = state.outcomes.get? name := by
      refine fun name hname => (hleft.named name).resolve_right fun hnamed => ?_
      obtain hnone | hunnamed := hname
      · rw [hnone] at hnamed
        cases hnamed.1
      · exact hunnamed hnamed.2
    exact ⟨hleft.outcomes, hkept, fun hnone => hkept _ (.inl hnone)⟩

/-- A test with one item that declares an outcome under the name of the time that it counts. -/
def TestDelivery.declaringTime : TestDelivery :=
  let delivery : TestDelivery := .single .linear .individual
  { delivery with definition :=
      { delivery.definition with outcomes :=
          [.simple BuiltIn.duration.identifier (.single .duration) (.duration 0.0)] } }

/-- A rule that clears the time of a test. -/
def Rule.clearTime : Rule := .assign .outcomeValue BuiltIn.duration.identifier .null

/-- Whether a session of a test has a time that was cleared. -/
def TestState.timeIsCleared (state : TestState) : Bool :=
  (state.outcomes.get? BuiltIn.duration.identifier).any (·.isNull)

namespace TestDelivery

/-- Run rules on a session of a test, as outcome processing does. -/
def execute (delivery : TestDelivery) (rules : List Rule) (environment : Environment) :
    Action TestState LogicError (Ending × NotificationLog) :=
  (Rule.execute delivery.engine (TestState.stage delivery.definition) rules).on environment

/-- In a new session of a test that declares its time, a rule clears it. -/
theorem exists_cleared_declaringTime :
    ∃ state ran left, declaringTime.create 0 = .ok state ∧
      (declaringTime.execute [.clearTime] (.forPass 0 0 .info)).run.run state =
        (.ok ran, left) ∧
      state.timeIsCleared = false ∧ left.timeIsCleared = true := by
  have hclears : (declaringTime.create 0).toOption.any (fun state =>
      let (result, left) :=
        (declaringTime.execute [.clearTime] (.forPass 0 0 .info)).run.run state
      result.toOption.isSome ∧ state.timeIsCleared = false ∧ left.timeIsCleared = true) = true := by
    decide +kernel
  obtain ⟨state, hstate, hcheck⟩ := (Option.any_eq_true _ _).1 hclears
  obtain ⟨hran, hbefore, hafter⟩ := of_decide_eq_true hcheck
  obtain ⟨ran, hran⟩ := Option.isSome_iff_exists.1 hran
  exact ⟨state, ran, _, eq_ok_of_mem_toOption hstate, run_eq_ok_of_mem_toOption hran, hbefore,
    hafter⟩

/-- Rules may change the time of a test, where the test declares an outcome of that name. -/
theorem not_forall_duration_eq :
    ¬∀ (delivery : TestDelivery) (seed : UInt64) (state left : TestState) (rules : List Rule)
      (environment : Environment) (ran : Ending × NotificationLog),
      delivery.create seed = .ok state →
      (delivery.execute rules environment).run.run state = (.ok ran, left) →
      left.outcomes.get? BuiltIn.duration.identifier =
        state.outcomes.get? BuiltIn.duration.identifier := by
  intro hall
  obtain ⟨state, ran, left, hcreate, hrun, hbefore, hafter⟩ := exists_cleared_declaringTime
  have hsame := hall _ _ _ _ _ _ _ hcreate hrun
  rw [TestState.timeIsCleared, hsame] at hafter
  exact Bool.false_ne_true (hbefore.symm.trans hafter)

end TestDelivery

end Assessment
