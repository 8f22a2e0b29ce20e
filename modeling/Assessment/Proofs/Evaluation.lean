import Assessment.Proofs.Execution

/-!
# What evaluations keep

An expression is evaluated node by node. What its nodes keep of the environment the whole
expression keeps, however deeply operands are nested and however many of them connectives leave out,
and it ends with a fault only where a node does.

In particular the evaluation ends with a logic error only where a look-up in its session does. A
view whose look-ups fail at most because a variable is not declared lets every expression be
evaluated, apart from those that aggregate over items; these need a view of a test.

## Main definitions

- `Evaluation.Keeps`: what an evaluation keeps of environments, and which faults it may end with.
- `Evaluation.Gives`: that, and what holds of the value.
- `Expression.NodesGive` and `Expression.NodesKeep`: what the nodes of expressions give and keep.
- `View.Reads` and `View.Aggregates`: what a view has to provide.

## Main results

- `Expression.NodesGive.gives_tryEvaluate`: expressions give what their nodes give.
- `Expression.NodesKeep.keeps_tryEvaluate`: expressions keep what their nodes keep.
- `Expression.noLogic_tryEvaluate`: expressions are evaluated without logic errors.
-/

namespace Assessment

open Action

namespace Evaluation

variable {α β : Type} {holds : Environment → Prop} {fails : Fault → Prop}

/-- From an environment of which `holds` holds an evaluation leads to another one of which it holds,
and it ends with no fault but one of which `fails` holds. -/
def Keeps (holds : Environment → Prop) (fails : Fault → Prop) (evaluation : Evaluation α) : Prop :=
  ∀ environment, holds environment → evaluation.Ensures environment (fun _ => holds)
    fun fault left => holds left ∧ fails fault

theorem keeps_pure (a : α) : Keeps holds fails (pure a) := fun _ h => h

theorem keeps_fault {error : RuntimeFault} (h : fails (.runtime error)) :
    Keeps holds fails (fault error : Evaluation α) := fun _ hholds => ⟨hholds, h⟩

theorem Keeps.bind {evaluation : Evaluation α} {f : α → Evaluation β}
    (h : Keeps holds fails evaluation) (hf : ∀ a, Keeps holds fails (f a)) :
    Keeps holds fails (evaluation >>= f) :=
  fun environment hholds => (h environment hholds).bind (fun a left hleft => hf a left hleft)
    fun _ _ herror => herror

/-- An evaluation keeps what `Keeps` says, and of its value `good` holds. -/
def Gives (good : α → Prop) (holds : Environment → Prop) (fails : Fault → Prop)
    (evaluation : Evaluation α) : Prop :=
  ∀ environment, holds environment →
    evaluation.Ensures environment (fun a left => good a ∧ holds left)
      fun fault left => holds left ∧ fails fault

section Gives

variable {good : α → Prop} {good' : β → Prop}

theorem gives_true {evaluation : Evaluation α} :
    Gives (fun _ => True) holds fails evaluation ↔ Keeps holds fails evaluation := by
  simp only [Gives, Keeps, true_and]

theorem gives_pure {a : α} (h : good a) : Gives good holds fails (pure a) :=
  fun _ hholds => ⟨h, hholds⟩

theorem gives_fault {error : RuntimeFault} (h : fails (.runtime error)) :
    Gives good holds fails (fault error : Evaluation α) := fun _ hholds => ⟨hholds, h⟩

theorem Gives.bind {evaluation : Evaluation α} {f : α → Evaluation β}
    (h : Gives good holds fails evaluation) (hf : ∀ a, good a → Gives good' holds fails (f a)) :
    Gives good' holds fails (evaluation >>= f) :=
  fun environment hholds => (h environment hholds).bind
    (fun a left hleft => hf a hleft.1 left hleft.2) fun _ _ herror => herror

theorem Keeps.bind_gives {evaluation : Evaluation α} {f : α → Evaluation β}
    (h : Keeps holds fails evaluation) (hf : ∀ a, Gives good' holds fails (f a)) :
    Gives good' holds fails (evaluation >>= f) :=
  (gives_true.2 h).bind fun a _ => hf a

theorem gives_computed {result : Except RuntimeFault α}
    (h : Yields result good fun error => fails (.runtime error)) :
    Gives good holds fails (computed result) := by
  cases result with
  | ok a => exact gives_pure h
  | error error => exact gives_fault h

/-- Random numbers may be drawn where it does not matter what is drawn from. -/
theorem gives_drawn (hrandom : ∀ environment random, holds environment →
      holds { environment with random })
    {draw : RandomSource → Except RuntimeFault (α × RandomSource)}
    (h : ∀ source, Yields (draw source) (fun answer => good answer.1)
      fun error => fails (.runtime error)) :
    Gives good holds fails (drawn draw) := by
  intro environment hholds
  have hdraw := h environment.random
  rw [drawn, ensures_bind, ensures_get]
  split
  next a random hresult =>
    rw [hresult] at hdraw
    exact ⟨hdraw, hrandom _ _ hholds⟩
  next error herror =>
    rw [herror] at hdraw
    exact ⟨hholds, hdraw⟩

theorem gives_found {result : Except LogicError α}
    (h : Yields result good fun error => fails (.ofLookup error)) :
    Gives good holds fails (found result) := by
  cases result with
  | ok a => exact gives_pure h
  | error error => exact fun _ hholds => ⟨hholds, h⟩

end Gives

theorem keeps_computed {result : Except RuntimeFault α}
    (h : Yields result (fun _ => True) fun error => fails (.runtime error)) :
    Keeps holds fails (computed result) :=
  gives_true.1 (gives_computed h)

theorem keeps_drawn (hrandom : ∀ environment random, holds environment →
      holds { environment with random })
    {draw : RandomSource → Except RuntimeFault (α × RandomSource)}
    (h : ∀ source, Yields (draw source) (fun _ => True) fun error => fails (.runtime error)) :
    Keeps holds fails (drawn draw) :=
  gives_true.1 (gives_drawn hrandom h)

theorem keeps_found {result : Except LogicError α}
    (h : Yields result (fun _ => True) fun error => fails (.ofLookup error)) :
    Keeps holds fails (found result) :=
  gives_true.1 (gives_found h)

end Evaluation

open Evaluation

/-! ### Nested expressions -/

namespace Expression

/-- The values of nodes of which `admits` holds are ones of which `good` holds, if those of their
operands are. The nodes keep the property `holds` of environments, and end with no fault but one of
which `fails` holds. -/
structure NodesGive (engine : Engine) (view : View) (admits : Expression → Prop)
    (good : Value → Prop) (holds : Environment → Prop) (fails : Fault → Prop) : Prop where
  /-- The value of a leaf is found. -/
  leaf : ∀ {node}, admits node → Gives good holds fails (evaluateLeaf view node)
  /-- An operator stands over too few or too many operands. -/
  arity : ∀ {operator operands}, admits (.apply operator operands) →
    operator.arity.accepts operands.length = false →
    fails (.runtime (.arity operator.name operator.arity operands.length))
  /-- An operator is applied to the values of its operands. -/
  builtIn : ∀ {operator operands values}, admits (.apply operator operands) →
    (∀ value ∈ values, good value) →
    Gives good holds fails (drawn (operator.apply engine.options.overflow values))
  /-- The value of a connective is a truth value. -/
  truth : ∀ state, good (ofTriState state)
  /-- The operand of a connective is no truth value. -/
  connective : ∀ name, fails (.runtime (expecting name "single boolean operands"))
  /-- An operator of an extension is applied to the values of its operands. -/
  extension : ∀ {className key operator values},
    engine.registry.operator? className = some (key, operator) → (∀ value ∈ values, good value) →
    Gives good holds fails (computed (customValue className operator values))
  /-- No extension has an operator. -/
  unsupported : ∀ className, Keeps holds fails
    (note .warning .evaluation "customOperator" (.unsupportedOperator className))

namespace NodesGive

variable {engine : Engine} {view : View} {admits : Expression → Prop} {good : Value → Prop}
  {holds : Environment → Prop} {fails : Fault → Prop}

-- The recursion follows the nesting of operands; connectives evaluate as many of theirs as they
-- need.
mutual

/-- An expression gives what its nodes give. -/
theorem gives_tryEvaluate (h : NodesGive engine view admits good holds fails) :
    ∀ expression : Expression, (∀ node ∈ expression.walk, admits node) →
      Gives good holds fails (tryEvaluate engine view expression)
  | apply operator operands, hnodes => by
    have hnode := hnodes _ List.mem_cons_self
    have hoperands := fun node hnode => hnodes node (List.mem_cons_of_mem _ hnode)
    unfold tryEvaluate
    split
    next hcount => exact gives_fault (h.arity hnode (Bool.not_eq_true' _ ▸ hcount))
    next =>
      -- Connectives may leave operands out; the other operators evaluate all of them first.
      split
      next => exact gives_tryConnect h false operands none hoperands
      next => exact gives_tryConnect h true operands none hoperands
      next =>
        exact (gives_tryEvaluateAll h operands hoperands).bind fun _ hvalues =>
          h.builtIn hnode hvalues
  | custom className operands, hnodes => by
    have hoperands := fun node hnode => hnodes node (List.mem_cons_of_mem _ hnode)
    rw [tryEvaluate]
    split
    next => exact (h.unsupported className).bind_gives fun _ => gives_pure (h.truth .unknown)
    next hoperator =>
      exact (gives_tryEvaluateAll h operands hoperands).bind fun _ hvalues =>
        h.extension hoperator hvalues
  | baseValue _, hnodes | null, hnodes | valueOf _ _, hnodes | defaultOf _, hnodes
  | correctOf _, hnodes | mapResponse _, hnodes | mapResponsePoint _, hnodes
  | mathConstant _, hnodes | randomInteger _ _ _, hnodes | randomFloat _ _, hnodes
  | countItems _ _, hnodes | testVariables _ _ _ _, hnodes | outcomeBounds _ _ _ _, hnodes => by
    exact h.leaf (hnodes _ List.mem_cons_self)

/-- Several expressions give what their nodes give. -/
theorem gives_tryEvaluateAll (h : NodesGive engine view admits good holds fails) :
    ∀ expressions : List Expression, (∀ node ∈ walkAll expressions, admits node) →
      Gives (fun values => ∀ value ∈ values, good value) holds fails
        (tryEvaluateAll engine view expressions)
  | [], _ => gives_pure nofun
  | first :: rest, hnodes => by
    rw [tryEvaluateAll]
    refine (gives_tryEvaluate h first fun node hnode => ?_).bind fun value hvalue => ?_
    · exact hnodes node (List.mem_append_left _ hnode)
    · refine (gives_tryEvaluateAll h rest fun node hnode => ?_).bind fun values hvalues => ?_
      · exact hnodes node (List.mem_append_right _ hnode)
      · exact gives_pure (List.forall_mem_cons.2 ⟨hvalue, hvalues⟩)

/-- A connective gives a truth value. -/
theorem gives_tryConnect (h : NodesGive engine view admits good holds fails) (disjunction : Bool) :
    ∀ (expressions : List Expression) (before : Option TriState),
      (∀ node ∈ walkAll expressions, admits node) →
      Gives good holds fails (tryConnect engine view disjunction before expressions)
  | [], _, _ => gives_pure (h.truth _)
  | first :: rest, before, hnodes => by
    rw [tryConnect]
    refine (gives_tryEvaluate h first fun node hnode => ?_).bind fun value _ => ?_
    · exact hnodes node (List.mem_append_left _ hnode)
    · split
      next => exact gives_fault (h.connective _)
      next =>
        split
        next =>
          cases disjunction
          · exact gives_pure (h.truth .no)
          · exact gives_pure (h.truth .yes)
        next =>
          exact gives_tryConnect h disjunction rest _ fun node hnode =>
            hnodes node (List.mem_append_right _ hnode)

end

end NodesGive

/-- Nodes of which `admits` holds keep the property `holds` of environments, and end with no fault
but one of which `fails` holds. -/
structure NodesKeep (engine : Engine) (view : View) (admits : Expression → Prop)
    (holds : Environment → Prop) (fails : Fault → Prop) : Prop where
  /-- The value of a leaf is found. -/
  leaf : ∀ {node}, admits node → Keeps holds fails (evaluateLeaf view node)
  /-- An operator stands over too few or too many operands. -/
  arity : ∀ {operator operands}, admits (.apply operator operands) →
    operator.arity.accepts operands.length = false →
    fails (.runtime (.arity operator.name operator.arity operands.length))
  /-- An operator is applied to the values of its operands. -/
  builtIn : ∀ (operator : Operator) values,
    Keeps holds fails (drawn (operator.apply engine.options.overflow values))
  /-- The operand of a connective is no truth value. -/
  connective : ∀ name, fails (.runtime (expecting name "single boolean operands"))
  /-- An operator of an extension is applied to the values of its operands. -/
  extension : ∀ className operator values,
    Keeps holds fails (computed (customValue className operator values))
  /-- No extension has an operator. -/
  unsupported : ∀ className, Keeps holds fails
    (note .warning .evaluation "customOperator" (.unsupportedOperator className))

section NodesKeep

variable {engine : Engine} {view : View} {admits : Expression → Prop} {holds : Environment → Prop}
  {fails : Fault → Prop}

/-- Where nothing is asked of values, nodes give what they keep. -/
theorem NodesKeep.gives (h : NodesKeep engine view admits holds fails) :
    NodesGive engine view admits (fun _ => True) holds fails where
  leaf hnode := gives_true.2 (h.leaf hnode)
  arity := h.arity
  builtIn _ _ := gives_true.2 (h.builtIn _ _)
  truth _ := trivial
  connective := h.connective
  extension _ _ := gives_true.2 (h.extension _ _ _)
  unsupported := h.unsupported

/-- An expression keeps what its nodes keep. -/
theorem NodesKeep.keeps_tryEvaluate (h : NodesKeep engine view admits holds fails)
    (expression : Expression) (hnodes : ∀ node ∈ expression.walk, admits node) :
    Keeps holds fails (tryEvaluate engine view expression) :=
  gives_true.1 (h.gives.gives_tryEvaluate expression hnodes)

end NodesKeep

/-- Evaluation with faults recorded is evaluation without, and then the record. -/
theorem run_evaluate (engine : Engine) (view : View) (expression : Expression)
    (environment : Environment) :
    (expression.evaluate engine view).run.run environment =
      match (tryEvaluate engine view expression).run.run environment with
      | (.ok value, left) => (.ok value, left)
      | (.error (.logic error), left) => (.error error, left)
      | (.error (.runtime error), left) =>
        (.ok .null, left.record ⟨.error, .evaluation, expression.name, .fault error⟩) := by
  rw [evaluate, ExceptT.run_mk, StateT.run_bind]
  rcases (tryEvaluate engine view expression).run.run environment with ⟨fault | value, left⟩
  · cases fault <;> rfl
  · rfl

/-- With the fault of an expression recorded, its evaluation keeps what it keeps without, if the
record does. -/
theorem ensures_evaluate {engine : Engine} {view : View} {expression : Expression}
    {environment : Environment} {holds : Environment → Prop} {fails : Fault → Prop}
    (h : Keeps holds fails (expression.tryEvaluate engine view))
    (hrecord : ∀ {environment error}, holds environment → fails (.runtime error) →
      holds (environment.record ⟨.error, .evaluation, expression.name, .fault error⟩))
    (hholds : holds environment) :
    (expression.evaluate engine view).Ensures environment (fun _ => holds)
      fun error left => holds left ∧ fails (.logic error) := by
  have hvalue := h environment hholds
  unfold Ensures at hvalue ⊢
  rw [run_evaluate]
  rcases hresult : (tryEvaluate engine view expression).run.run environment
    with ⟨fault | value, left⟩
  · rw [hresult] at hvalue
    cases fault with
    | runtime error => exact hrecord hvalue.1 hvalue.2
    | logic error => exact hvalue
  · rw [hresult] at hvalue
    exact hvalue

end Expression

/-! ### Logic errors -/

/-- A look-up fails only because a variable is not declared. -/
def FailsUndeclared {α : Type} (result : Except LogicError α) : Prop :=
  Yields result (fun _ => True) fun error => ∃ name, error = .undeclaredVariable name

/-- The variables of a view have values, defaults and correct answers as far as they are
declared. -/
structure View.Reads (view : View) : Prop where
  /-- Values are found. -/
  value : ∀ name, FailsUndeclared (view.value name)
  /-- Defaults are found. -/
  defaultValue : ∀ name, FailsUndeclared (view.defaultValue name)
  /-- Correct answers are found. -/
  correctValue : ∀ name, FailsUndeclared (view.correctValue name)

/-- There are items to aggregate over, and the values of their variables are found. -/
def View.Aggregates (view : View) : Prop :=
  ∀ operation, Yields (view.items operation)
    (fun items => ∀ item ∈ items, ∀ name, FailsUndeclared (item.state.read item.definition name))
    fun _ => False

/-- An evaluation does not end with a logic error. -/
def Evaluation.NoLogic {α : Type} (evaluation : Evaluation α) : Prop :=
  Keeps (fun _ => True) (fun fault => ∀ error, fault ≠ .logic error) evaluation

namespace Evaluation

variable {α : Type}

theorem noLogic_fault (error : RuntimeFault) : NoLogic (fault error : Evaluation α) :=
  keeps_fault fun _ => nofun

theorem noLogic_computed (result : Except RuntimeFault α) : NoLogic (computed result) := by
  cases result with
  | ok a => exact keeps_pure a
  | error error => exact noLogic_fault error

theorem noLogic_drawn (draw : RandomSource → Except RuntimeFault (α × RandomSource)) :
    NoLogic (drawn draw) := by
  refine keeps_drawn (fun _ _ _ => trivial) fun source => ?_
  cases draw source with
  | ok a => trivial
  | error error => exact fun _ => nofun

/-- That a variable is not declared is a fault of the expression. -/
theorem noLogic_found {result : Except LogicError α} (h : FailsUndeclared result) :
    NoLogic (found result) := by
  refine keeps_found (h.mono (fun _ _ => trivial) ?_)
  rintro _ ⟨name, rfl⟩ error
  exact nofun

end Evaluation

section view

variable {view : View}

theorem noLogic_responseDeclaration (operation : String) (name : Identifier) :
    NoLogic (responseDeclaration view operation name) := by
  unfold responseDeclaration
  split
  next => exact keeps_pure _
  next => exact noLogic_fault _
  next => exact noLogic_fault _

theorem noLogic_mappedScore (hview : view.Reads) (name : Identifier) :
    NoLogic (mappedScore view name) := by
  refine (noLogic_responseDeclaration _ _).bind fun declaration => ?_
  split
  next => exact noLogic_fault _
  next => exact (noLogic_found (hview.value name)).bind fun _ => keeps_pure _

theorem noLogic_mappedPointScore (hview : view.Reads) (name : Identifier) :
    NoLogic (mappedPointScore view name) := by
  refine (noLogic_responseDeclaration _ _).bind fun declaration => ?_
  split
  next => exact noLogic_fault _
  next =>
    split
    next => exact noLogic_fault _
    next => exact (noLogic_found (hview.value name)).bind fun _ => keeps_pure _

/-- An operation over the items of a test ends with no logic error if it does not for items whose
variables are found. -/
theorem noLogic_aggregated {α : Type} (hview : view.Aggregates) (operation : String)
    {f : List TestItem → Evaluation α}
    (hf : ∀ items,
      (∀ item ∈ items, ∀ name, FailsUndeclared (item.state.read item.definition name)) →
      NoLogic (f items)) :
    NoLogic (aggregated view operation >>= f) := by
  have hitems := hview operation
  rw [aggregated]
  cases hresult : view.items operation with
  | ok items =>
    rw [hresult] at hitems
    exact hf items hitems
  | error error =>
    rw [hresult] at hitems
    exact hitems.elim

/-- An item adds nothing to a collection where the variable is not declared. -/
theorem yields_collectedFrom {read : TestItem → Except LogicError Value}
    {weight : Option Identifier} {baseType : Option BaseType} {item : TestItem}
    (h : FailsUndeclared (read item)) :
    Yields (collectedFrom read weight baseType item) (fun _ => True) fun _ => False := by
  unfold collectedFrom
  split
  next => trivial
  next => trivial
  next => trivial
  next error hother hread =>
    rw [hread] at h
    obtain ⟨name, rfl⟩ := h
    exact hother name rfl

/-- Collecting the values of a variable of several items fails at most because of the values. -/
theorem yields_testVariables {read : TestItem → Except LogicError Value}
    {weight : Option Identifier} {baseType : Option BaseType} {subset : ItemSubset}
    {items : List TestItem} (hitems : ∀ item ∈ items, FailsUndeclared (read item)) :
    Yields (testVariables read weight baseType subset items) (fun _ => True)
      fun fault => ∀ error, fault ≠ .logic error := by
  -- An item that lacks the variable is passed over, so that nothing fails before the values are
  -- put together.
  have hcollected : Yields ((items.filter subset.accepts).mapM (collectedFrom read weight baseType))
      (fun _ => True) fun _ => False := by
    refine (yields_mapM _ _).mono (fun _ _ => trivial) ?_
    rintro error ⟨item, hitem, herror⟩
    have hitem := @yields_collectedFrom read weight baseType item
      (hitems item (List.mem_filter.1 hitem).1)
    rw [herror] at hitem
    exact hitem
  obtain ⟨collected, hcollected, -⟩ := hcollected.exists_ok
  rw [testVariables, hcollected, yields_bind, yields_ok]
  dsimp only
  split
  next => trivial
  next => exact fun _ => nofun

/-- The value of a leaf is found without a logic error. -/
theorem noLogic_evaluateLeaf (hview : view.Reads) {expression : Expression}
    (hitems : expression.isTestOnly = true → view.Aggregates) :
    NoLogic (evaluateLeaf view expression) := by
  cases expression with
  | baseValue scalar => exact keeps_pure _
  | valueOf name weight => exact (noLogic_found (hview.value name)).bind fun _ => keeps_pure _
  | defaultOf name => exact noLogic_found (hview.defaultValue name)
  | correctOf name => exact noLogic_found (hview.correctValue name)
  | mapResponse name => exact noLogic_mappedScore hview name
  | mapResponsePoint name => exact noLogic_mappedPointScore hview name
  | mathConstant constant => exact keeps_pure _
  | randomInteger least greatest step => exact noLogic_drawn _
  | randomFloat least greatest => exact noLogic_drawn _
  | countItems count subset =>
    exact noLogic_aggregated (hitems rfl) _ fun _ _ => keeps_pure _
  | testVariables name weight baseType subset =>
    refine noLogic_aggregated (hitems rfl) _ fun items hread => ?_
    have hvalue := @yields_testVariables (fun item => item.state.read item.definition name) weight
      baseType subset items fun item hitem => hread item hitem name
    dsimp only
    cases hresult : testVariables _ weight baseType subset items with
    | ok value => exact keeps_pure value
    | error fault =>
      rw [hresult] at hvalue
      exact fun _ htrue => ⟨htrue, hvalue⟩
  | outcomeBounds bound name weight subset =>
    exact noLogic_aggregated (hitems rfl) _ fun _ _ => noLogic_computed _
  | null => exact keeps_pure _
  | apply operator operands => exact keeps_pure _
  | custom className operands => exact keeps_pure _

end view

namespace Expression

variable (engine : Engine) {view : View} {expression : Expression}

/-- An expression is evaluated without a logic error, if the view has items to aggregate over where
a node of the expression does so. -/
theorem noLogic_tryEvaluate (hview : view.Reads)
    (hnodes : ∀ node ∈ expression.walk, node.isTestOnly = true → view.Aggregates) :
    NoLogic (tryEvaluate engine view expression) := by
  have hkeep : NodesKeep engine view (fun node => node.isTestOnly = true → view.Aggregates)
      (fun _ => True) fun fault => ∀ error, fault ≠ .logic error :=
    { leaf := fun hnode => noLogic_evaluateLeaf hview hnode
      arity := fun _ _ _ => nofun
      builtIn := fun _ _ => noLogic_drawn _
      connective := fun _ _ => nofun
      extension := fun _ _ _ => noLogic_computed _
      unsupported := fun _ _ _ => trivial }
  exact hkeep.keeps_tryEvaluate expression hnodes

/-- The evaluation of an expression raises no logic error. -/
theorem raisesOnly_false (hview : view.Reads)
    (hnodes : ∀ node ∈ expression.walk, node.isTestOnly = true → view.Aggregates) :
    expression.RaisesOnly engine view fun _ => False := by
  intro environment
  exact (noLogic_tryEvaluate engine hview hnodes environment trivial).mono (fun _ _ _ => trivial)
    fun _ _ hfault => hfault.2

end Expression

end Assessment
