import Assessment.Evaluation.Basic
import Assessment.Proofs.Agreement
import Assessment.Proofs.Evaluation
import Assessment.Proofs.Nothing.Value
import Assessment.Proofs.Test.Related

/-!
# Evaluation where nothing is held in several ways

Sessions are akin if they differ only in how their variables, their defaults and their correct
answers hold nothing. An expression that uses no operator of an extension does not tell such
sessions apart: it has values that are akin or the same fault, draws the same random numbers, and
reports the same.

Reports are compared by their words. A value that does not fit is reported as it is written, and all
ways of holding nothing are written alike.

## Main definitions

- `NotificationLog.Akin` and `Environment.Akin`: what reads the same, with the same random numbers.
- `ItemState.Akin` and `TestItem.Akin`: sessions of items that differ in how they hold nothing.
- `View.Akin`: views of such sessions.
- `Expression.IsBuiltIn`: no operator of an extension is used.

## Main results

- `View.Akin.coupled_tryEvaluate` and `View.Akin.coupled_evaluate`: expressions do not tell such
  sessions apart.
-/

namespace Assessment

open Action Evaluation

/-! ### What reads the same -/

/-- Two notifications are of one level and kind, from one source, and say the same words. -/
structure Notification.SameWords (first second : Notification) : Prop where
  /-- They are equally grave. -/
  level : second.level = first.level
  /-- They are about the same. -/
  kind : second.kind = first.kind
  /-- They come from the same place. -/
  source : second.source = first.source
  /-- They say the same. -/
  text : second.message.text = first.message.text

theorem Notification.SameWords.refl (notification : Notification) :
    notification.SameWords notification := ⟨rfl, rfl, rfl, rfl⟩

/-- Two logs keep notifications from one level on, and have notifications that read the same. -/
structure NotificationLog.Akin (log log' : NotificationLog) : Prop where
  /-- Notifications are kept from the same level on. -/
  minLevel : log'.minLevel = log.minLevel
  /-- The notifications read the same. -/
  entries : List.Forall₂ Notification.SameWords log.entries log'.entries

/-- Two environments have the same random numbers and logs that read the same. -/
structure Environment.Akin (environment environment' : Environment) : Prop where
  /-- The same random numbers come next. -/
  random : environment'.random = environment.random
  /-- The logs read the same. -/
  log : environment.log.Akin environment'.log

section record

variable {log log' : NotificationLog} {environment environment' : Environment}
  {notification notification' : Notification}

theorem NotificationLog.Akin.refl (log : NotificationLog) : log.Akin log :=
  ⟨rfl, List.forall₂_same.2 fun entry _ => .refl entry⟩

theorem NotificationLog.Akin.record (h : log.Akin log')
    (hwords : notification.SameWords notification') :
    (log.record notification).Akin (log'.record notification') := by
  unfold NotificationLog.record
  have hkeeps : log'.keeps notification'.level = log.keeps notification.level := by
    rw [keeps, keeps, h.minLevel, hwords.level]
  rw [hkeeps]
  split
  · exact ⟨h.minLevel, List.rel_append h.entries (.cons hwords .nil)⟩
  · exact h

theorem Environment.Akin.refl (environment : Environment) : environment.Akin environment :=
  ⟨rfl, .refl _⟩

/-- Environments stay akin if notifications with the same words are recorded. -/
theorem Environment.Akin.record (h : environment.Akin environment')
    (hwords : notification.SameWords notification') :
    (environment.record notification).Akin (environment'.record notification') :=
  ⟨h.random, h.log.record hwords⟩

end record

/-! ### Sessions of items -/

/-- Two stores have variables of the same names, with values that are akin. -/
abbrev Store.Akin (store store' : Store) : Prop := SortedMap.Forall₂ Value.Akin store store'

/-- A variable has values that are akin in stores that are, or in neither. -/
theorem couple_value {store store' : Store} (h : store.Akin store') (name : Identifier) :
    Couple Value.Akin Eq (store.value name) (store'.value name) := by
  unfold Store.value
  have hvalue := h.get? name
  generalize store.get? name = value, store'.get? name = value' at hvalue
  cases hvalue with
  | none => rfl
  | some hvalue => exact hvalue

/-- What an item session keeps apart from values. -/
def ItemState.frame (state : ItemState) : ItemState :=
  { state with
    templates := .empty
    responses := .empty
    outcomes := .empty
    templateDefaults := .empty
    correctOverrides := .empty
    defaultOverrides := .empty }

/-- Two sessions of an item differ only in how some values, defaults or correct answers hold
nothing. -/
structure ItemState.Akin (s t : ItemState) : Prop where
  /-- The values of template variables are akin. -/
  templates : s.templates.Akin t.templates
  /-- The values of response variables are akin. -/
  responses : s.responses.Akin t.responses
  /-- The values of outcome variables are akin. -/
  outcomes : s.outcomes.Akin t.outcomes
  /-- The defaults of template variables are akin. -/
  templateDefaults : s.templateDefaults.Akin t.templateDefaults
  /-- The correct answers are akin. -/
  correctOverrides : s.correctOverrides.Akin t.correctOverrides
  /-- The defaults are akin. -/
  defaultOverrides : s.defaultOverrides.Akin t.defaultOverrides
  /-- All the rest is the same. -/
  frame : t.frame = s.frame

/-- What stands in place of a declared value is akin, and where nothing does, what is declared. -/
theorem Value.akin_getD_orElse {given given' : Option Value}
    (h : Option.Rel Value.Akin given given') (declared : Option Value) :
    ((given <|> declared).getD .null).Akin ((given' <|> declared).getD .null) := by
  cases h with
  | none => exact .refl _
  | some h => exact h

namespace ItemState.Akin

variable {s t : ItemState} (h : s.Akin t)

include h

/-- What does not depend on values is the same in both sessions. -/
theorem frame_congr {α : Type} (f : ItemState → α)
    (hf : ∀ state : ItemState, f state.frame = f state) : f t = f s := by
  rw [← hf t, h.frame, hf]

theorem responded : t.responded = s.responded := h.frame_congr ItemState.responded fun _ => rfl

theorem isPresented : t.isPresented = s.isPresented :=
  h.frame_congr ItemState.isPresented fun _ => rfl

theorem store (role : Role) : (s.store role).Akin (t.store role) := by
  cases role with
  | template => exact h.templates
  | response => exact h.responses
  | outcome => exact h.outcomes

variable (definition : ItemDefinition) (name : Identifier)

theorem couple_read : Couple Value.Akin Eq (s.read definition name) (t.read definition name) :=
  couple_bind_self (fun _ => rfl) fun declaration => couple_value (h.store declaration.role) name

theorem couple_readDefault :
    Couple Value.Akin Eq (s.readDefault definition name) (t.readDefault definition name) :=
  couple_bind_self (fun _ => rfl) fun _ => Value.akin_getD_orElse (h.defaultOverrides.get? name) _

theorem couple_readCorrect :
    Couple Value.Akin Eq (s.readCorrect definition name) (t.readCorrect definition name) :=
  couple_bind_self (fun _ => rfl) fun _ => Value.akin_getD_orElse (h.correctOverrides.get? name) _

end ItemState.Akin

/-! ### Items to aggregate over -/

/-- Two items of a test differ only in how their sessions hold nothing. -/
abbrev TestItem.Akin : TestItem → TestItem → Prop := TestItem.Related ItemState.Akin

namespace TestItem.Akin

variable {item item' : TestItem} {items items' : List TestItem}

/-- The same responses can be correct, with answers that are akin. -/
theorem correctAnswers (h : item.Akin item') :
    List.Forall₂ (fun answer answer' => answer'.1 = answer.1 ∧ answer.2.Akin answer'.2)
      item.correctAnswers item'.correctAnswers := by
  unfold TestItem.correctAnswers
  rw [h.definition]
  refine List.rel_filterMap (R := Eq) ?_ (List.forall₂_refl _)
  rintro declaration _ rfl
  have hgiven := h.state.correctOverrides.get? declaration.identifier
  dsimp only
  generalize item.state.correctOverrides.get? declaration.identifier = given,
    item'.state.correctOverrides.get? declaration.identifier = given' at hgiven ⊢
  cases hgiven with
  | some hgiven => exact .some (And.intro rfl hgiven)
  | none =>
    cases declaration.correctResponse with
    | none => exact .none
    | some value => exact .some (And.intro rfl (.refl value))

theorem holds (h : item.Akin item') (name : Identifier) {correct correct' : Value}
    (hcorrect : correct.Akin correct') : item'.holds name correct' = item.holds name correct := by
  unfold TestItem.holds
  have hvalue := h.state.responses.get? name
  generalize item.state.responses.get? name = value,
    item'.state.responses.get? name = value' at hvalue
  cases hvalue with
  | none => rfl
  | some hvalue => exact hvalue.beq_congr hcorrect

/-- Both items are answered correctly, or neither is. -/
theorem isCorrect (h : item.Akin item') : item'.isCorrect = item.isCorrect := by
  unfold TestItem.isCorrect
  have hanswers := h.correctAnswers
  have hall : (item'.correctAnswers.all fun answer => item'.holds answer.1 answer.2) =
      item.correctAnswers.all fun answer => item.holds answer.1 answer.2 := by
    refine all_eq_of_forall₂ hanswers fun answer answer' hanswer => ?_
    rw [hanswer.1]
    exact h.holds answer.1 hanswer.2
  rw [hall]
  generalize item.correctAnswers = answers, item'.correctAnswers = answers' at hanswers
  cases hanswers <;> rfl

theorem countHolds (h : item.Akin item') (count : ItemCount) :
    count.holds item' = count.holds item := by
  cases count <;>
    simp only [ItemCount.holds, h.state.responded, h.state.isPresented, h.isCorrect]

theorem accepts (h : item.Akin item') (subset : ItemSubset) :
    subset.accepts item' = subset.accepts item := by
  rw [ItemSubset.accepts, ItemSubset.accepts, h.ref, h.sections]

/-- The same items are in a subset. -/
theorem filter_accepts (h : List.Forall₂ TestItem.Akin items items') (subset : ItemSubset) :
    List.Forall₂ TestItem.Akin (items.filter subset.accepts) (items'.filter subset.accepts) := by
  refine List.rel_filter (fun item item' hitem => ?_) h
  dsimp only
  rw [hitem.accepts]

end TestItem.Akin

section aggregates

variable {items items' : List TestItem} (h : List.Forall₂ TestItem.Akin items items')
  (subset : ItemSubset)

include h

theorem countItems_congr (count : ItemCount) :
    countItems count subset items' = countItems count subset items := by
  rw [countItems, countItems, countP_eq_of_forall₂ (TestItem.Akin.filter_accepts h subset)
    fun _ _ hitem => hitem.countHolds count]

/-- Items add the same scalars to a collection. -/
theorem testVariables_congr (name : Identifier) (weight : Option Identifier)
    (baseType : Option BaseType) :
    testVariables (fun item => item.state.read item.definition name) weight baseType subset items' =
      testVariables (fun item => item.state.read item.definition name) weight baseType subset
        items := by
  have hcollected (item item' : TestItem) (hitem : item.Akin item') :
      collectedFrom (fun item => item.state.read item.definition name) weight baseType item' =
        collectedFrom (fun item => item.state.read item.definition name) weight baseType item := by
    have hread := hitem.state.couple_read item.definition name
    unfold collectedFrom factorOf
    dsimp only
    rw [hitem.definition, hitem.ref]
    generalize item.state.read item.definition name = result,
      item'.state.read item.definition name = result' at hread
    match result, result', hread with
    | .error _, .error _, rfl => rfl
    | .ok _, .ok _, .inl rfl => rfl
    | .ok value, .ok value', .inr ⟨hnull, hnull'⟩ =>
      -- Only single values are collected, which are not nothing.
      cases value <;> cases value' <;> first | rfl | (cases hnull; done) | cases hnull'
  unfold testVariables
  rw [mapM_eq_of_forall₂ (TestItem.Akin.filter_accepts h subset) hcollected]

theorem outcomeBounds_congr (bound : OutcomeBound) (name : Identifier)
    (weight : Option Identifier) :
    outcomeBounds bound name weight subset items' =
      outcomeBounds bound name weight subset items := by
  have hdeclared : List.Forall₂ (fun declared declared' : TestItem × OutcomeDeclaration =>
        declared'.1.ref = declared.1.ref ∧ declared'.2 = declared.2)
      ((items.filter subset.accepts).filterMap fun item =>
        (item.definition.outcome? name).map fun declaration => (item, declaration))
      ((items'.filter subset.accepts).filterMap fun item =>
        (item.definition.outcome? name).map fun declaration => (item, declaration)) := by
    refine List.rel_filterMap (fun item item' hitem => ?_) (TestItem.Akin.filter_accepts h subset)
    rw [hitem.definition]
    cases item.definition.outcome? name with
    | none => exact .none
    | some declaration => exact .some (And.intro hitem.ref rfl)
  unfold outcomeBounds
  dsimp only
  rw [mapM_eq_of_forall₂ hdeclared]
  rintro ⟨item, declaration⟩ ⟨item', _⟩ ⟨href : item'.ref = item.ref, rfl⟩
  simp only [factorOf, href]

end aggregates

/-! ### Views -/

/-- Two views of sessions that differ only in how some values, defaults or correct answers hold
nothing. -/
structure View.Akin (view view' : View) : Prop where
  /-- Names mean the same variables. -/
  declaration? : view'.declaration? = view.declaration?
  /-- The values of variables are akin. -/
  value : ∀ name, Couple Value.Akin Eq (view.value name) (view'.value name)
  /-- The defaults of variables are akin. -/
  defaultValue : ∀ name, Couple Value.Akin Eq (view.defaultValue name) (view'.defaultValue name)
  /-- The correct answers of variables are akin. -/
  correctValue : ∀ name, Couple Value.Akin Eq (view.correctValue name) (view'.correctValue name)
  /-- Names mean the same factors. -/
  weight? : view'.weight? = view.weight?
  /-- The items to aggregate over are akin. -/
  items : ∀ operation,
    Couple (List.Forall₂ TestItem.Akin) Eq (view.items operation) (view'.items operation)

namespace Evaluation

variable {α β : Type} {results : α → β → Prop} {states : Environment → Environment → Prop}
  {environment environment' : Environment}

theorem coupled_found {result : Except LogicError α} {result' : Except LogicError β}
    (hresult : Couple results Eq result result') (h : states environment environment') :
    Coupled states results Eq (found result) (found result') environment environment' := by
  match result, result', hresult with
  | .ok _, .ok _, hresult => exact coupled_pure hresult h
  | .error _, .error _, rfl => exact coupled_throw rfl h

theorem coupled_aggregated {view view' : View} (hview : view.Akin view') (operation : String)
    (h : states environment environment') :
    Coupled states (List.Forall₂ TestItem.Akin) Eq (aggregated view operation)
      (aggregated view' operation) environment environment' := by
  have hitems := hview.items operation
  unfold aggregated
  generalize view.items operation = items, view'.items operation = items' at hitems
  match items, items', hitems with
  | .ok _, .ok _, hitems => exact coupled_pure hitems h
  | .error _, .error _, rfl => exact coupled_throw rfl h

/-- The same random number is drawn from the same source. -/
theorem coupled_drawn {draw : RandomSource → Except RuntimeFault (Value × RandomSource)}
    (h : environment.Akin environment') :
    Coupled Environment.Akin Value.Akin Eq (drawn draw) (drawn draw) environment
      environment' := by
  rw [drawn, coupled_get_bind, h.random]
  cases draw environment.random with
  | error error => exact coupled_throw rfl h
  | ok answer =>
    rw [coupled_modify_bind]
    exact coupled_pure (.refl _) ⟨rfl, h.log⟩

theorem coupled_responseDeclaration {view view' : View} (hview : view.Akin view')
    (operation : String) (name : Identifier) (h : states environment environment') :
    Coupled states Eq Eq (responseDeclaration view operation name)
      (responseDeclaration view' operation name) environment environment' := by
  unfold responseDeclaration
  rw [hview.declaration?]
  split
  next => exact coupled_pure rfl h
  next => exact coupled_throw rfl h
  next => exact coupled_throw rfl h

/-- A mapping scores what holds nothing alike. -/
theorem coupled_mappedScore {view view' : View} (hview : view.Akin view') (name : Identifier)
    (h : states environment environment') :
    Coupled states Value.Akin Eq (mappedScore view name) (mappedScore view' name) environment
      environment' := by
  refine (coupled_responseDeclaration hview _ _ h).bind ?_
  rintro declaration _ left left' rfl hleft
  cases declaration.mapping with
  | none => exact coupled_throw rfl hleft
  | some mapping =>
    refine (coupled_found (hview.value name) hleft).bind fun value value' _ _ hvalue hleft => ?_
    rw [hvalue.congr mapping.overlooks_score]
    exact coupled_pure (.refl _) hleft

theorem coupled_mappedPointScore {view view' : View} (hview : view.Akin view') (name : Identifier)
    (h : states environment environment') :
    Coupled states Value.Akin Eq (mappedPointScore view name) (mappedPointScore view' name)
      environment environment' := by
  refine (coupled_responseDeclaration hview _ _ h).bind ?_
  rintro declaration _ left left' rfl hleft
  cases declaration.areaMapping with
  | none => exact coupled_throw rfl hleft
  | some mapping =>
    refine coupled_ite (fun _ => coupled_throw rfl hleft) fun _ => ?_
    refine (coupled_found (hview.value name) hleft).bind fun value value' _ _ hvalue hleft => ?_
    rw [hvalue.congr mapping.overlooks_score]
    exact coupled_pure (.refl _) hleft

end Evaluation

/-! ### Expressions -/

theorem Value.Akin.weightedValue {a b : Value} (h : a.Akin b) (factor : Option Float) :
    (weightedValue factor a).Akin (weightedValue factor b) := by
  obtain rfl | ⟨ha, hb⟩ := h
  · rfl
  · -- Only single values are weighted.
    have hsame {value : Value} (hvalue : value.isNull = true) :
        Assessment.weightedValue factor value = value := by
      cases value <;> first | rfl | cases hvalue
    rw [hsame ha, hsame hb]
    exact .inr ⟨ha, hb⟩

/-- An expression and all its operands use no operator of an extension. -/
def Expression.IsBuiltIn (expression : Expression) : Prop :=
  ∀ className operands, .custom className operands ∉ expression.walk

namespace View.Akin

variable {engine : Engine} {view view' : View} {environment environment' : Environment}
  {expression : Expression}

/-- A leaf has values that are akin in views that are. -/
theorem coupled_evaluateLeaf (hview : view.Akin view') (node : Expression)
    (h : environment.Akin environment') :
    Coupled Environment.Akin Value.Akin Eq (evaluateLeaf view node) (evaluateLeaf view' node)
      environment environment' := by
  cases node with
  | baseValue _ | null | mathConstant _ | apply _ _ | custom _ _ => exact coupled_pure (.refl _) h
  | valueOf name weight =>
    refine (coupled_found (hview.value name) h).bind fun value value' _ _ hvalue hleft => ?_
    rw [hview.weight?]
    exact coupled_pure (hvalue.weightedValue _) hleft
  | defaultOf name => exact coupled_found (hview.defaultValue name) h
  | correctOf name => exact coupled_found (hview.correctValue name) h
  | mapResponse name => exact coupled_mappedScore hview name h
  | mapResponsePoint name => exact coupled_mappedPointScore hview name h
  | randomInteger _ _ _ | randomFloat _ _ => exact coupled_drawn h
  | countItems count subset =>
    refine (coupled_aggregated hview _ h).bind fun items items' _ _ hitems hleft => ?_
    rw [countItems_congr hitems]
    exact coupled_pure (.refl _) hleft
  | testVariables name weight baseType subset =>
    refine (coupled_aggregated hview _ h).bind fun items items' _ _ hitems hleft => ?_
    dsimp only
    rw [testVariables_congr hitems]
    split
    next => exact coupled_pure (.refl _) hleft
    next => exact coupled_throw rfl hleft
  | outcomeBounds bound name weight subset =>
    refine (coupled_aggregated hview _ h).bind fun items items' _ _ hitems hleft => ?_
    rw [outcomeBounds_congr hitems]
    cases Assessment.outcomeBounds bound name weight subset items with
    | ok value => exact coupled_pure (.refl value) hleft
    | error error => exact coupled_throw rfl hleft

theorem nodesCoupled (hview : view.Akin view') (engine : Engine) :
    Expression.NodesCoupled engine engine view view'
      (fun node => ∀ className operands, node ≠ .custom className operands) Value.Akin
      Environment.Akin where
  registry := rfl
  leaf _ h := hview.coupled_evaluateLeaf _ h
  builtIn {operator _ _ _ _ _} _ hgiven h := by
    rw [funext (operator.apply_congr engine.options.overflow hgiven)]
    exact coupled_drawn h
  extension hnode _ _ _ := absurd rfl (hnode _ _)
  triState? hvalue := hvalue.congr Value.overlooks_triState?
  refl := .refl
  record notification h := h.record (.refl notification)

/-- An expression without operators of extensions has values that are akin in views that are, or
the same fault. It draws the same random numbers, and reports the same. -/
theorem coupled_tryEvaluate (hview : view.Akin view') (hexpression : expression.IsBuiltIn)
    (h : environment.Akin environment') :
    Coupled Environment.Akin Value.Akin Eq (expression.tryEvaluate engine view)
      (expression.tryEvaluate engine view') environment environment' := by
  refine (hview.nodesCoupled engine).coupled_tryEvaluate expression ?_ h
  rintro _ hnode className operands rfl
  exact hexpression className operands hnode

/-- This is so as well where faults are recorded, and count as nothing. -/
theorem coupled_evaluate (hview : view.Akin view') (hexpression : expression.IsBuiltIn)
    (h : environment.Akin environment') :
    Coupled Environment.Akin Value.Akin Eq (expression.evaluate engine view)
      (expression.evaluate engine view') environment environment' := by
  have hboth : Coupled Environment.Akin Value.Akin Eq (expression.tryEvaluate engine view)
      (expression.tryEvaluate engine view') environment environment' :=
    hview.coupled_tryEvaluate hexpression h
  obtain ⟨hresult, hleft⟩ := hboth
  unfold Coupled
  rw [Expression.run_evaluate, Expression.run_evaluate]
  generalize (expression.tryEvaluate engine view).run.run environment = answer at hresult hleft
  generalize (expression.tryEvaluate engine view').run.run environment' = answer'
    at hresult hleft
  obtain ⟨fault | value, left⟩ := answer <;> obtain ⟨fault' | value', left'⟩ := answer'
  · obtain rfl : fault = fault' := hresult
    cases fault with
    | logic error => exact ⟨rfl, hleft⟩
    | runtime error => exact ⟨.refl .null, hleft.record (.refl _)⟩
  · exact hresult.elim
  · exact hresult.elim
  · exact ⟨hresult, hleft⟩

end View.Akin

end Assessment
