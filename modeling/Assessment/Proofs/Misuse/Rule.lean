import Assessment.Proofs.Evaluation
import Assessment.Proofs.Misuse.Basic

/-!
# Expressions and rules that misuse nothing

Whether an expression misuses a variable or an operator is a question of its nodes and of what is
declared, not of values. A view supports a node if the variable that it refers to can be read, has
the mapping that is asked for, and if an operator has as many operands as it takes. An expression
whose nodes are all supported is evaluated without a misuse, and reports none.

A rule misuses a variable if its expression does or if it assigns a variable that is not open to it.
Rules whose expressions are supported, and whose variables the stage offers, report no misuse,
however they are nested and however often template processing starts over.

## Main definitions

- `View.Supports`: a view has what a node of an expression refers to.
- `Evaluation.NoMisuse`: an evaluation reports no misuse and does not end with one.
- `Declaration.ServesAs`: a variable that is open to the assignments of a target.
- `Stage.Supports`: a stage has what a rule refers to.

## Main results

- `Expression.noMisuse_tryEvaluate`: an expression whose nodes are supported is evaluated without a
  misuse.
- `Stage.Keeps.preserves_noMisuse`: rules that are supported report no misuse.
- `Rule.ensures_execute_noMisuse` and `Rule.ensures_executeTemplate_noMisuse`: neither do runs of
  such rules.
-/

namespace Assessment

open Action Evaluation

/-! ### What nodes refer to -/

/-- A look-up does not fail because a variable is not declared. -/
def FindsDeclared {α : Type} (result : Except LogicError α) : Prop :=
  Yields result (fun _ => True) fun error => ∀ name, error ≠ .undeclaredVariable name

namespace View

/-- In a view a name means a response variable of which `has` holds, and that can be read. -/
def HasResponse (view : View) (name : Identifier) (has : ResponseDeclaration → Prop) : Prop :=
  FindsDeclared (view.value name) ∧
    ∃ declaration, view.declaration? name = some (.response declaration) ∧ has declaration

/-- A view has what a node of an expression refers to, and an operator stands over as many operands
as it takes. -/
def Supports (view : View) : Expression → Prop
  | .valueOf name _ => FindsDeclared (view.value name)
  | .defaultOf name => FindsDeclared (view.defaultValue name)
  | .correctOf name => FindsDeclared (view.correctValue name)
  | .mapResponse name => view.HasResponse name fun declaration => declaration.mapping.isSome = true
  | .mapResponsePoint name =>
    view.HasResponse name fun declaration => declaration.areaMapping.isSome = true
  | .apply operator operands => operator.arity.accepts operands.length = true
  | _ => True

end View

/-- Whether an evaluation ends with a misuse. -/
def Fault.isMisuse : Fault → Bool
  | .runtime error => error.isMisuse
  | .logic _ => false

/-- An evaluation reports no misuse and does not end with one. -/
def Evaluation.NoMisuse {α : Type} (evaluation : Evaluation α) : Prop :=
  Keeps (fun environment => environment.log.ReportsNoMisuse) (fun fault => fault.isMisuse = false)
    evaluation

namespace Evaluation

variable {α : Type}

theorem noMisuse_computed {result : Except RuntimeFault α} (h : FailsOnValues result) :
    NoMisuse (computed result) := keeps_computed h

theorem noMisuse_drawn {draw : RandomSource → Except RuntimeFault (α × RandomSource)}
    (h : ∀ source, FailsOnValues (draw source)) : NoMisuse (drawn draw) :=
  keeps_drawn (fun _ _ hlog => hlog) h

theorem noMisuse_found {result : Except LogicError α} (h : FindsDeclared result) :
    NoMisuse (found result) := by
  refine keeps_found (h.mono (fun _ _ => trivial) fun error herror => ?_)
  cases error with
  | undeclaredVariable name => exact absurd rfl (herror name)
  | _ => rfl

end Evaluation

/-! ### Leaves -/

open FailsOnValues

theorem failsOnValues_drawInteger (least greatest step : Int64) (source : RandomSource) :
    FailsOnValues (drawInteger least greatest step source) := by
  have hsize : FailsOnValues (gridSize least greatest step) := by
    refine ite rfl ?_
    split
    next => exact ok _
    next => rfl
  exact hsize.bind fun _ => ok _

theorem failsOnValues_drawFloat (least greatest : Float) (source : RandomSource) :
    FailsOnValues (drawFloat least greatest source) :=
  ite rfl (ite (ok _) (ite rfl (ok _)))

theorem failsOnValues_outcomeBounds (bound : OutcomeBound) (name : Identifier)
    (weight : Option Identifier) (subset : ItemSubset) (items : List TestItem) :
    FailsOnValues (outcomeBounds bound name weight subset items) := by
  unfold outcomeBounds
  dsimp only
  split
  next => exact failsOnValues_buildContainer _ _ _ _
  next => exact ok _

theorem failsOnValues_customValue (className : String) (operator : CustomOperator)
    (operands : List Value) : FailsOnValues (customValue className operator operands) := by
  unfold customValue
  split
  next => exact ok _
  next => rfl

section view

variable {view : View} {name : Identifier}

theorem noMisuse_mappedScore
    (h : view.HasResponse name fun declaration => declaration.mapping.isSome = true) :
    NoMisuse (mappedScore view name) := by
  obtain ⟨hvalue, declaration, hname, hmapping⟩ := h
  obtain ⟨mapping, hmapping⟩ := Option.isSome_iff_exists.1 hmapping
  simp only [mappedScore, responseDeclaration, hname, pure_bind, hmapping]
  exact (noMisuse_found hvalue).bind fun _ => keeps_pure _

theorem noMisuse_mappedPointScore
    (h : view.HasResponse name fun declaration => declaration.areaMapping.isSome = true) :
    NoMisuse (mappedPointScore view name) := by
  obtain ⟨hvalue, declaration, hname, hmapping⟩ := h
  obtain ⟨mapping, hmapping⟩ := Option.isSome_iff_exists.1 hmapping
  simp only [mappedPointScore, responseDeclaration, hname, pure_bind, hmapping]
  split
  next => exact keeps_fault rfl
  next => exact (noMisuse_found hvalue).bind fun _ => keeps_pure _

theorem noMisuse_aggregated (operation : String) {α : Type} {f : List TestItem → Evaluation α}
    (hf : ∀ items, NoMisuse (f items)) : NoMisuse (aggregated view operation >>= f) := by
  refine Keeps.bind ?_ hf
  unfold aggregated
  split
  next => exact keeps_pure _
  next => exact fun _ hlog => ⟨hlog, rfl⟩

/-- Items without the variable are passed over, so that collecting values is no misuse. -/
theorem isMisuse_of_testVariables {read : TestItem → Except LogicError Value}
    {weight : Option Identifier} {baseType : Option BaseType} {subset : ItemSubset}
    {items : List TestItem} :
    Yields (testVariables read weight baseType subset items) (fun _ => True)
      fun fault => fault.isMisuse = false := by
  unfold testVariables
  split
  next collected _ =>
    rw [yields_bind, yields_ok]
    dsimp only
    split
    next => trivial
    next error herror => exact (failsOnValues_buildContainer _ _ _ _).of_error herror
  next => rfl

/-- A leaf that a view supports is evaluated without a misuse. -/
theorem noMisuse_evaluateLeaf {node : Expression} (h : view.Supports node) :
    NoMisuse (evaluateLeaf view node) := by
  cases node with
  | baseValue scalar => exact keeps_pure _
  | valueOf name weight => exact (noMisuse_found h).bind fun _ => keeps_pure _
  | defaultOf name => exact noMisuse_found h
  | correctOf name => exact noMisuse_found h
  | mapResponse name => exact noMisuse_mappedScore h
  | mapResponsePoint name => exact noMisuse_mappedPointScore h
  | mathConstant constant => exact keeps_pure _
  | randomInteger least greatest step =>
    exact noMisuse_drawn fun source => failsOnValues_drawInteger _ _ _ source
  | randomFloat least greatest =>
    exact noMisuse_drawn fun source => failsOnValues_drawFloat _ _ source
  | countItems count subset => exact noMisuse_aggregated _ fun _ => keeps_pure _
  | testVariables name weight baseType subset =>
    refine noMisuse_aggregated _ fun items => ?_
    have hvalue := @isMisuse_of_testVariables
      (fun item => item.state.read item.definition name) weight baseType subset items
    dsimp only
    cases hresult : testVariables _ weight baseType subset items with
    | ok value => exact keeps_pure value
    | error fault =>
      rw [hresult] at hvalue
      exact fun _ hlog => ⟨hlog, hvalue⟩
  | outcomeBounds bound name weight subset =>
    exact noMisuse_aggregated _ fun _ => noMisuse_computed (failsOnValues_outcomeBounds _ _ _ _ _)
  | null => exact keeps_pure _
  | apply operator operands => exact keeps_pure _
  | custom className operands => exact keeps_pure _

end view

/-! ### Expressions -/

/-- An expression whose nodes are supported is evaluated without a misuse. -/
theorem Expression.noMisuse_tryEvaluate (engine : Engine) {view : View} {expression : Expression}
    (hnodes : ∀ node ∈ expression.walk, view.Supports node) :
    NoMisuse (expression.tryEvaluate engine view) := by
  have hkeep : NodesKeep engine view view.Supports
      (fun environment => environment.log.ReportsNoMisuse) fun fault => fault.isMisuse = false :=
    { leaf := noMisuse_evaluateLeaf
      arity := fun hnode hcount => absurd (hcount.symm.trans hnode) Bool.false_ne_true
      builtIn := fun operator values => noMisuse_drawn fun source =>
        operator.failsOnValues_apply _ values source
      connective := fun _ => rfl
      extension := fun _ _ _ => noMisuse_computed (failsOnValues_customValue _ _ _)
      unsupported := fun _ _ hlog => hlog.record rfl }
  exact hkeep.keeps_tryEvaluate expression hnodes

/-! ### Variables that may be assigned -/

/-- A variable is open to the assignments of a target. -/
structure Declaration.ServesAs (declaration : Declaration) (target : Target) : Prop where
  /-- It has a role that the target asks for. -/
  role : target.roles.contains declaration.role = true
  /-- The session does not keep it itself. -/
  maintained : isMaintained declaration = false
  /-- It has a table where one is looked up in. -/
  table : target = .lookupOutcome → (declaration.outcome? >>= (·.lookupTable)).isSome = true

/-- Where a variable is open to a target, a value is only refused because of its type. -/
theorem Declaration.ServesAs.isMisuse_of_prepareFor {declaration : Declaration} {target : Target}
    {name : Identifier} {given : Value} {problem : AssignmentProblem}
    (h : declaration.ServesAs target)
    (hprepare : prepareFor target name declaration given = .error problem) :
    problem.isMisuse = false := by
  obtain ⟨looked, hlooked⟩ : ∃ looked, lookedUp target declaration name given = .ok looked := by
    unfold lookedUp
    split
    next htarget =>
      obtain ⟨table, htable⟩ := Option.isSome_iff_exists.1 (h.table htarget)
      rw [htable]
      exact ⟨_, rfl⟩
    next => exact ⟨given, rfl⟩
  unfold prepareFor at hprepare
  rw [h.maintained, h.role, hlooked] at hprepare
  change (if (coerce looked declaration.signature).conforms declaration.signature = true then _
    else _) = _ at hprepare
  split at hprepare
  next => cases hprepare
  next =>
    cases hprepare
    rfl

variable {σ : Type}

/-- A stage offers the variable of a name for the assignments of a target. -/
structure Stage.Offers (stage : Stage σ) (target : Target) (name : Identifier) : Prop where
  /-- The name means a variable that is open to the target. -/
  assignable : ∃ declaration, stage.assignable? name = some declaration ∧
    declaration.ServesAs target
  /-- Declarations are changed only where they can be. -/
  overrides : target.isOverride = true → stage.overrides.isSome = true

/-- A stage has what a rule refers to, in all sessions of which `keeps` holds. -/
structure Stage.Supports (stage : Stage σ) (keeps : σ → Prop) (rule : Rule) : Prop where
  /-- The nodes of its expressions are supported. -/
  expressions : ∀ {session}, keeps session → ∀ expression ∈ rule.ownExpressions,
    ∀ node ∈ expression.walk, (stage.view session).Supports node
  /-- The variable that it assigns is offered. -/
  target : ∀ {target name expression}, rule = .assign target name expression →
    stage.Offers target name

/-- Where a stage offers a variable, a value is only refused because of its type. -/
theorem Stage.Offers.isMisuse_of_prepare {stage : Stage σ} {session : σ} {target : Target}
    {name : Identifier} {given : Value} {problem : AssignmentProblem} (h : stage.Offers target name)
    (hprepare : prepare stage session target name given = .error problem) :
    problem.isMisuse = false := by
  obtain ⟨declaration, hname, hserves⟩ := h.assignable
  rw [prepare, hname] at hprepare
  exact hserves.isMisuse_of_prepareFor hprepare

/-! ### Runs of rules -/

variable {engine : Engine} {stage : Stage σ} {admits : Expression → Prop} {keeps : σ → Prop}

/-- Rules that are supported report no misuse. -/
theorem Stage.Keeps.preserves_noMisuse (hstage : stage.Keeps engine admits keeps fun _ => False) :
    stage.Preserves engine
      (fun rule => stage.Supports keeps rule ∧ ∀ expression ∈ rule.ownExpressions,
        admits expression)
      (fun run => keeps run.session ∧ run.environment.log.ReportsNoMisuse) fun _ => False where
  evaluate {_ expression run} hrule hexpression hrun := by
    have hlogic := hstage.evaluate (hrule.2 _ hexpression) hrun.1 run.environment
    have hmisuse := expression.noMisuse_tryEvaluate engine
      (hrule.1.expressions hrun.1 _ hexpression) run.environment hrun.2
    refine (hlogic.and hmisuse).mono (fun _ _ hleft => ⟨hrun.1, hleft.2⟩) ?_
    rintro fault left ⟨hlogic, hleft, hfault⟩
    cases fault with
    | logic error => exact hlogic error rfl
    | runtime error => exact fun source => ⟨hrun.1, hleft.record hfault⟩
  notBoolean hrun := ⟨hrun.1, hrun.2.record rfl⟩
  refuse hrule hrun hproblem :=
    ⟨hrun.1, hrun.2.record ((hrule.1.target rfl).isMisuse_of_prepare hproblem)⟩
  write {target _ _ _ _ _ _} hrule hrun hvalue := by
    obtain ⟨declaration, hname, hvalue⟩ := exists_of_prepare hvalue
    have hoverride : target.isOverride = false ∨ stage.overrides.isSome = true := by
      cases htarget : target.isOverride with
      | false => exact .inl rfl
      | true => exact .inr ((hrule.1.target rfl).overrides htarget)
    refine (hstage.ensures_write hrun.1 hname hvalue).mono (fun _ left hleft => ⟨hleft.1, ?_⟩)
      fun _ _ herror => herror
    rw [hleft.2 hoverride]
    exact hrun.2
  warn hmessage hrun := by
    refine ⟨hrun.1, hrun.2.record ?_⟩
    simp only [List.mem_cons, List.not_mem_nil, or_false] at hmessage
    obtain rfl | rfl := hmessage <;> rfl
  relax _ hrun := hrun

namespace Rule

variable {rules : List Rule} {environment : Environment} {session : σ}

/-- Running rules that are supported reports no misuse. -/
theorem ensures_execute_noMisuse (hstage : stage.Keeps engine admits keeps fun _ => False)
    (hsupports : ∀ rule ∈ walkAll rules, stage.Supports keeps rule)
    (hadmits : Admitted admits (walkAll rules)) (hsession : keeps session)
    (hlog : environment.log.ReportsNoMisuse) :
    ((execute engine stage rules).on environment).Ensures session
      (fun answer left => keeps left ∧ answer.2.ReportsNoMisuse) fun _ _ => False :=
  Execution.ensures_on_log (hstage.preserves_noMisuse.ensures_execute
    (fun rule hrule => ⟨hsupports rule hrule, hadmits rule hrule⟩) ⟨hsession, hlog⟩)

/-- Template processing with rules that are supported reports no misuse. -/
theorem ensures_executeTemplate_noMisuse (hstage : stage.Keeps engine admits keeps fun _ => False)
    (hrestart : ∀ session, keeps session →
      stage.restart.Ensures session (fun _ => keeps) fun _ _ => False)
    (hsupports : ∀ rule ∈ walkAll rules, stage.Supports keeps rule)
    (hadmits : Admitted admits (walkAll rules)) (hsession : keeps session)
    (hlog : environment.log.ReportsNoMisuse) :
    ((executeTemplate engine stage rules).on environment).Ensures session
      (fun answer left => keeps left ∧ answer.2.ReportsNoMisuse) fun _ _ => False := by
  refine Execution.ensures_on_log (hstage.preserves_noMisuse.ensures_executeTemplate
    (fun run hrun => ?_) (fun rule hrule => ⟨hsupports rule hrule, hadmits rule hrule⟩)
    ⟨hsession, hlog⟩)
  rw [restart, ensures_within]
  exact (hrestart run.session hrun.1).mono (fun _ _ hleft => ⟨hleft, hrun.2⟩)
    fun _ _ herror => herror

end Rule

end Assessment
