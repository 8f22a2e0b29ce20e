import Assessment.Proofs.Misuse.Rule
import Assessment.Proofs.Validation

/-!
# Validation finds every misuse

Validation resolves a name to all variables that it may mean, and accepts it if there is one. A
session looks for the first variable of a name. Where the two agree on names that may mean one
variable only, rules in which validation finds no errors are supported by the stage that they are
run on. For items they agree in every session.

## Main definitions

- `ItemDefinition.SignaturesValid` and `Subject.Usable`: all types of variables are ones that values
  can have.
- `View.Agrees` and `Stage.Agrees`: a session finds what validation does.

## Main results

- `Stage.Agrees.supports_of_checkRules`: rules without errors are supported.
- `ItemDefinition.agrees_stage`: sessions of items find what validation does.
- `ItemDelivery.processes_noMisuse`: no operation on a session of a valid item reports a misuse.
-/

namespace Assessment

open Action Findings

/-! ### Names that may mean one variable -/

/-- All declared variables of an item have types that values can have. -/
def ItemDefinition.SignaturesValid (definition : ItemDefinition) : Prop :=
  ∀ declaration ∈ definition.declarations, declaration.signature.isValid = true

namespace Subject

variable {subject : Subject} {source : String} {name : Identifier}

/-- All variables that a name may mean have types that values can have. -/
def Usable (subject : Subject) : Prop :=
  ∀ name, ∀ declaration ∈ subject.candidates name, declaration.signature.isValid = true

/-- Where nothing but a warning is to be said of a reference, it means one variable. -/
theorem Usable.exists_of_resolve (husable : subject.Usable)
    (h : ∀ problem, subject.resolve name = .error problem → problem.isWarning = true) :
    ∃ declaration, subject.candidates name = [declaration] ∧
      subject.resolve name = .ok declaration := by
  unfold resolve at h ⊢
  split
  next hnone =>
    rw [hnone] at h
    cases h _ rfl
  next declaration hone =>
    -- The type is one that values can have, so that there is nothing to warn of either.
    have hvalid := husable name declaration (hone ▸ List.mem_singleton_self _)
    rw [if_pos hvalid]
    exact ⟨declaration, hone, rfl⟩
  next hnone hone =>
    split at h
    next hfound => exact absurd hfound hnone
    next declaration hfound => exact absurd hfound (hone declaration)
    next => cases h _ rfl

/-- Where nothing but a warning is to be said of a reference to a response, it means one response
variable. -/
theorem Usable.exists_of_resolveResponse (husable : subject.Usable)
    (h : ∀ problem, subject.resolveResponse name = .error problem → problem.isWarning = true) :
    ∃ declaration, subject.candidates name = [.response declaration] ∧
      subject.resolveResponse name = .ok declaration := by
  have hresolve : ∀ problem, subject.resolve name = .error problem → problem.isWarning = true := by
    intro problem hproblem
    refine h problem ?_
    rw [resolveResponse, hproblem]
    rfl
  obtain ⟨declaration, hone, hfound⟩ := husable.exists_of_resolve hresolve
  rw [resolveResponse, hfound] at h ⊢
  cases declaration with
  | response declaration => exact ⟨declaration, hone, rfl⟩
  | template _ | outcome _ | builtIn _ => cases h _ rfl

/-- A reference without errors means one variable. -/
theorem Usable.exists_of_checkReference (husable : subject.Usable)
    (h : (subject.checkReference source name).errors = []) :
    ∃ declaration, subject.candidates name = [declaration] := by
  obtain ⟨declaration, hone, -⟩ := husable.exists_of_resolve fun problem hproblem => by
    rw [checkReference, hproblem] at h
    exact errors_singleton_eq_nil.1 h
  exact ⟨declaration, hone⟩

end Subject

/-- A view finds what validation does: the one variable that a name may mean, its value, its default
and its correct answer. -/
structure View.Agrees (view : View) (subject : Subject) : Prop where
  /-- The variable is found. -/
  declaration : ∀ {name declaration}, subject.candidates name = [declaration] →
    view.declaration? name = some declaration
  /-- It can be read. -/
  value : ∀ {name declaration}, subject.candidates name = [declaration] →
    FindsDeclared (view.value name)
  /-- So can its default. -/
  defaultValue : ∀ {name declaration}, subject.candidates name = [declaration] →
    FindsDeclared (view.defaultValue name)
  /-- So can its correct answer. -/
  correctValue : ∀ {name declaration}, subject.candidates name = [declaration] →
    FindsDeclared (view.correctValue name)

/-! ### Expressions and rules without errors -/

section agrees

variable {subject : Subject} {view : View} {registry : Registry} {source : String}

/-- A node without errors is supported. -/
theorem View.Agrees.supports_of_checkNode (hview : view.Agrees subject) (husable : subject.Usable)
    {node : Expression} (h : (subject.checkNode registry source node).errors = []) :
    view.Supports node := by
  cases node with
  | valueOf name weight =>
    obtain ⟨_, hone⟩ := husable.exists_of_checkReference (errors_append_eq_nil.1 h).1
    exact hview.value hone
  | defaultOf name =>
    obtain ⟨_, hone⟩ := husable.exists_of_checkReference h
    exact hview.defaultValue hone
  | correctOf name =>
    obtain ⟨_, hone, -⟩ := husable.exists_of_resolveResponse fun problem hproblem => by
      rw [Subject.checkNode, Subject.checkResponse, hproblem] at h
      exact errors_singleton_eq_nil.1 h
    exact hview.correctValue hone
  | mapResponse name =>
    rw [Subject.checkNode, Subject.checkMapping] at h
    obtain ⟨declaration, hone, hfound⟩ := husable.exists_of_resolveResponse fun problem hproblem =>
      by rw [hproblem] at h; exact errors_singleton_eq_nil.1 h
    rw [hfound] at h
    have hmapping := errors_ite_eq_nil.1 h
    refine ⟨hview.value hone, declaration, hview.declaration hone, ?_⟩
    exact Option.ne_none_iff_isSome.1 fun hnone => nomatch hmapping (by rw [hnone]; rfl)
  | mapResponsePoint name =>
    rw [Subject.checkNode, Subject.checkAreaMapping] at h
    obtain ⟨declaration, hone, hfound⟩ := husable.exists_of_resolveResponse fun problem hproblem =>
      by rw [hproblem] at h; exact errors_singleton_eq_nil.1 h
    rw [hfound] at h
    have hmapping := errors_ite_eq_nil.1 (errors_append_eq_nil.1 h).1
    refine ⟨hview.value hone, declaration, hview.declaration hone, ?_⟩
    exact Option.ne_none_iff_isSome.1 fun hnone => nomatch hmapping (by rw [hnone]; rfl)
  | apply operator operands =>
    have harity := (errors_append_eq_nil.1 h).1
    change operator.arity.accepts operands.length = true
    split at harity
    next haccepts => exact haccepts
    next => cases harity
  | baseValue _ | null | mathConstant _ | randomInteger _ _ _ | randomFloat _ _ | countItems _ _
  | testVariables _ _ _ _ | outcomeBounds _ _ _ _ | custom _ _ => trivial

/-- The nodes of an expression without errors are supported. -/
theorem View.Agrees.supports_of_checkExpression (hview : view.Agrees subject)
    (husable : subject.Usable) {expression : Expression}
    (h : (subject.checkExpression registry source expression).errors = []) :
    ∀ node ∈ expression.walk, view.Supports node := by
  intro node hnode
  have hchecked := errors_flatMap_eq_nil.1 h node hnode
  dsimp only at hchecked
  split at hchecked
  next => exact hview.supports_of_checkNode husable hchecked
  next => cases hchecked

/-- What keeps a rule from its place is never a mere warning. -/
theorem Subject.isWarning_of_placeProblem? {kind : ProcessingKind} {target : Target}
    {name : Identifier} {problem : Problem}
    (h : Subject.placeProblem? kind target name = some problem) : problem.isWarning = false := by
  unfold Subject.placeProblem? at h
  split_ifs at h <;> cases h <;> rfl

/-- A variable is open to a target if nothing is wrong with its assignment. -/
theorem Subject.servesAs_of_targetProblems {target : Target} {name : Identifier}
    {declaration : Declaration}
    (h : ∀ problem ∈ Subject.targetProblems target name declaration, problem.isWarning = true) :
    declaration.ServesAs target := by
  unfold Subject.targetProblems at h
  split at h
  next => cases h _ (List.mem_singleton_self _)
  next hrole =>
    -- Each of the two lists that are left holds an error or nothing.
    have hbuiltIn : ¬(declaration.isBuiltIn = true ∧ declaration.role ≠ .outcome) := by
      intro hkept
      have hmem := List.mem_singleton_self (Problem.maintained name)
      cases h _ (List.mem_append_left _ (by rwa [if_pos hkept]))
    have htable : ¬(target = .lookupOutcome ∧
        (declaration.outcome? >>= (·.lookupTable)).isNone = true) := by
      intro hmissing
      have hmem := List.mem_singleton_self (Problem.noLookupTable name)
      cases h _ (List.mem_append_right _ (by rwa [if_pos hmissing]))
    refine ⟨by simpa using hrole, ?_, fun htarget => ?_⟩
    · cases declaration with
      | builtIn builtIn =>
        cases builtIn with
        | completionStatus => rfl
        | numAttempts | duration => exact absurd ⟨rfl, by decide⟩ hbuiltIn
      | template _ | response _ | outcome _ => rfl
    · exact Option.ne_none_iff_isSome.1 fun hnone => htable ⟨htarget, by rw [hnone]; rfl⟩

/-- A rule without errors assigns the one variable that its name may mean, and this is open to
it. -/
theorem Subject.Usable.of_checkTarget (husable : subject.Usable) {kind : ProcessingKind}
    {target : Target} {name : Identifier}
    (h : (subject.checkTarget kind source target name).errors = []) :
    Subject.placeProblem? kind target name = none ∧
      ∃ declaration, subject.candidates name = [declaration] ∧ declaration.ServesAs target := by
  unfold Subject.checkTarget at h
  split at h
  next problem hplace =>
    have hwarning := errors_singleton_eq_nil.1 h
    rw [Subject.isWarning_of_placeProblem? hplace] at hwarning
    cases hwarning
  next hplace =>
    obtain ⟨declaration, hone, hfound⟩ := husable.exists_of_resolve fun problem hproblem => by
      rw [hproblem] at h
      exact errors_singleton_eq_nil.1 h
    rw [hfound] at h
    have hserves := Subject.servesAs_of_targetProblems (errors_map_at_eq_nil.1 h)
    exact ⟨hplace, declaration, hone, hserves⟩

end agrees

/-- In all sessions of which `keeps` holds a stage finds what validation does, and offers the
variables that rules of a kind may assign. -/
structure Stage.Agrees {σ : Type} (stage : Stage σ) (keeps : σ → Prop) (subject : Subject)
    (kind : ProcessingKind) : Prop where
  /-- Expressions find what validation does. -/
  view : ∀ {session}, keeps session → (stage.view session).Agrees subject
  /-- The one variable that a name may mean is offered. -/
  assignable : ∀ {target name declaration}, Subject.placeProblem? kind target name = none →
    subject.candidates name = [declaration] → declaration.ServesAs target →
    stage.assignable? name = some declaration
  /-- Declarations are changed only where they can be. -/
  overrides : ∀ {target : Target} {name}, Subject.placeProblem? kind target name = none →
    target.isOverride = true → stage.overrides.isSome = true

/-- Rules without errors are supported. -/
theorem Stage.Agrees.supports_of_checkRules {σ : Type} {stage : Stage σ} {keeps : σ → Prop}
    {subject : Subject} {registry : Registry} {kind : ProcessingKind} {rules : List Rule}
    (hstage : stage.Agrees keeps subject kind) (husable : subject.Usable)
    (h : (subject.checkRules registry kind rules).errors = []) :
    ∀ rule ∈ Rule.walkAll rules, stage.Supports keeps rule := by
  intro rule hrule
  obtain ⟨hhead, hexpressions⟩ := errors_append_eq_nil.1 (errors_flatMap_eq_nil.1 h rule hrule)
  constructor
  · intro session hsession expression hexpression
    exact (hstage.view hsession).supports_of_checkExpression husable
      (errors_flatMap_eq_nil.1 hexpressions expression hexpression)
  · rintro target name expression rfl
    obtain ⟨hplace, declaration, hone, hserves⟩ := husable.of_checkTarget hhead
    exact ⟨⟨declaration, hstage.assignable hplace hone hserves, hserves⟩, hstage.overrides hplace⟩

/-! ### Items -/

/-- The value of a variable may be missing in its store, but the variable is declared. -/
theorem Store.findsDeclared_value (store : Store) (name : Identifier) :
    FindsDeclared (store.value name) := by
  unfold Store.value
  split
  next => trivial
  next => exact fun _ => nofun

namespace ItemDefinition

variable {definition : ItemDefinition} {session : ItemState} {name : Identifier}
  {declaration : Declaration}

theorem usable_ofItem (h : definition.SignaturesValid) : (Subject.ofItem definition).Usable := by
  intro name declaration hdeclaration
  obtain ⟨hmem, -⟩ := mem_resolveAll.1 hdeclaration
  obtain hbuiltIn | hdeclared := List.mem_append.1 hmem
  · obtain ⟨builtIn, -, rfl⟩ := List.mem_map.1 hbuiltIn
    cases builtIn <;> rfl
  · exact h declaration hdeclared

theorem findsDeclared_read (h : definition.resolve? name.text = some declaration) :
    FindsDeclared (session.read definition name) := by
  rw [ItemState.read, ItemState.declared, h]
  exact Store.findsDeclared_value _ _

theorem findsDeclared_readDefault (h : definition.resolve? name.text = some declaration) :
    FindsDeclared (session.readDefault definition name) := by
  rw [ItemState.readDefault, ItemState.declared, h]
  trivial

theorem findsDeclared_readCorrect (h : definition.resolve? name.text = some declaration) :
    FindsDeclared (session.readCorrect definition name) := by
  rw [ItemState.readCorrect, ItemState.declared, h]
  trivial

/-- A name that may mean one variable of an item means that variable. -/
theorem resolve?_of_resolveAll {text : String} (h : definition.resolveAll text = [declaration]) :
    definition.resolve? text = some declaration := by
  rw [resolve?, h]
  rfl

/-- Sessions of items find what validation does. -/
theorem agrees_stage (definition : ItemDefinition) (keeps : ItemState → Prop)
    (kind : ProcessingKind) :
    (ItemState.stage definition).Agrees keeps (.ofItem definition) kind where
  view _ :=
    { declaration := resolve?_of_resolveAll
      value := fun hone => findsDeclared_read (resolve?_of_resolveAll hone)
      defaultValue := fun hone => findsDeclared_readDefault (resolve?_of_resolveAll hone)
      correctValue := fun hone => findsDeclared_readCorrect (resolve?_of_resolveAll hone) }
  assignable _ hone _ := resolve?_of_resolveAll hone
  overrides _ _ := rfl

end ItemDefinition

/-- No operation on a session of an item without errors reports a misuse. -/
theorem ItemDelivery.processes_noMisuse {item : ItemDelivery} {registry : Registry}
    (hvalid : (item.definition.validate registry).errors = [])
    (hsignatures : item.definition.SignaturesValid) :
    item.Processes item.Stocked NotificationLog.ReportsNoMisuse where
  toUpholds := item.upholds_stocked
  template hsession _ _ := by
    obtain ⟨-, -, -, hchecked, -⟩ := ItemDefinition.errors_validate_eq_nil.1 hvalid
    exact Rule.ensures_executeTemplate_noMisuse item.stage_keeps_stocked
      (fun _ hsession => hsession.ensures_restartTemplates)
      ((ItemDefinition.agrees_stage _ _ _).supports_of_checkRules
        (ItemDefinition.usable_ofItem hsignatures) hchecked)
      (ItemDefinition.standsAlone_of_validate hvalid).templateProcessing hsession
      (NotificationLog.reportsNoMisuse_empty _)
  response hsession _ _ := by
    obtain ⟨-, -, -, -, hchecked⟩ := ItemDefinition.errors_validate_eq_nil.1 hvalid
    exact Rule.ensures_execute_noMisuse item.stage_keeps_stocked
      ((ItemDefinition.agrees_stage _ _ _).supports_of_checkRules
        (ItemDefinition.usable_ofItem hsignatures) hchecked)
      (ItemDefinition.standsAlone_of_validate hvalid).responseProcessing hsession
      (NotificationLog.reportsNoMisuse_empty _)
  empty := NotificationLog.reportsNoMisuse_empty _

end Assessment
