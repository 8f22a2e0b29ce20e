import Assessment.Element.Building
import Assessment.Proofs.Coupling

/-!
# What elements build

Building from elements may report operators that no package knows, and what was reported does not
change what is built. So an element either builds the same whenever it is read, or nothing ever. For
each kind of elements this module says what has to be built before, and what it comes to.

## Main definitions

- `Building.Steady`: what is built does not depend on what was reported before.
- `Building.Builds`: something is built, whatever was reported before.

## Main results

- `Building.Steady.builds_iff`: what is built in one run is built in all of them.
- `Element.builds_toExpression_iff`: which expressions elements build.
- `Element.builds_toRule_iff`: which rules elements build, other than conditions.
-/

namespace Assessment

/-- A list is related to another one if each of its members is related to something. -/
theorem exists_forall₂_iff {α β : Type} {related : α → β → Prop} {as : List α} :
    (∃ bs, List.Forall₂ related as bs) ↔ ∀ a ∈ as, ∃ b, related a b := by
  induction as with
  | nil => simp
  | cons a as ih => simp [List.forall₂_cons_left_iff, ← ih, exists_and_left, exists_comm]

/-- Two lists stay related if what relates them comes to something else for their members. -/
theorem forall₂_of_mem {α β : Type} {related related' : α → β → Prop} {as : List α} {bs : List β}
    (h : List.Forall₂ related as bs) (himp : ∀ a ∈ as, ∀ b, related a b → related' a b) :
    List.Forall₂ related' as bs :=
  ((List.forall₂_and_left as bs).2 ⟨himp, h⟩).imp fun _ b h => h.1 b h.2

namespace Building

variable {α β : Type}

/-- What is built does not depend on what was reported before. -/
def Steady (building : Building α) : Prop :=
  ∀ log log', (building.run.run log).1 = (building.run.run log').1

/-- Something is built, whatever was reported before. -/
def Builds (building : Building α) (a : α) : Prop := ∀ log, (building.run.run log).1 = .ok a

section rules

variable {building : Building α} {f : α → Building β} {a : α} {b : β}

theorem steady_pure (a : α) : Steady (pure a) := fun _ _ => rfl

theorem steady_throw (error : BuildError) : Steady (throw error : Building α) := fun _ _ => rfl

theorem steady_ofExcept (result : Except BuildError α) : Steady (Action.ofExcept result) :=
  fun _ _ => rfl

theorem run_bind_fst (building : Building α) (f : α → Building β) (log : NotificationLog) :
    ((building >>= f).run.run log).1 =
      (building.run.run log).1 >>= fun a => ((f a).run.run (building.run.run log).2).1 := by
  rw [Action.run_bind]
  rcases building.run.run log with ⟨_ | _, _⟩ <;> rfl

theorem Steady.bind (h : Steady building) (hf : ∀ a, Steady (f a)) : Steady (building >>= f) := by
  intro log log'
  rw [run_bind_fst, run_bind_fst, h log log']
  cases (building.run.run log').1 with
  | error _ => rfl
  | ok a => exact hf a _ _

/-- What is built in one run is built in all of them. -/
theorem Steady.builds_iff (h : Steady building) (log : NotificationLog) :
    Builds building a ↔ (building.run.run log).1 = .ok a :=
  ⟨fun hbuilds => hbuilds log, fun hrun log' => (h log' log).trans hrun⟩

@[simp]
theorem builds_pure {a' : α} : Builds (pure a) a' ↔ a' = a := by
  refine ⟨fun h => ?_, ?_⟩
  · exact (Except.ok.inj (h (.empty .info))).symm
  · rintro rfl _
    rfl

@[simp]
theorem not_builds_throw (error : BuildError) : ¬Builds (throw error) a := fun h => by
  cases h (.empty .info)

@[simp]
theorem builds_ofExcept {result : Except BuildError α} :
    Builds (Action.ofExcept result) a ↔ result = .ok a :=
  ⟨fun h => h (.empty .info), fun h _ => h⟩

/-- A sequence builds what its second part builds of what its first part builds. -/
theorem builds_bind (h : Steady building) (hf : ∀ a, Steady (f a)) :
    Builds (building >>= f) b ↔ ∃ a, Builds building a ∧ Builds (f a) b := by
  have log : NotificationLog := .empty .info
  rw [(h.bind hf).builds_iff log, run_bind_fst]
  simp only [h.builds_iff log]
  constructor
  · intro hrun
    cases hresult : (building.run.run log).1 with
    | error _ =>
      rw [hresult] at hrun
      cases hrun
    | ok a =>
      rw [hresult] at hrun
      exact ⟨a, rfl, ((hf a).builds_iff _).2 hrun⟩
  · rintro ⟨a, hresult, hnext⟩
    rw [hresult]
    exact hnext _

end rules

end Building

namespace Element

open Building

variable (vocabulary : Vocabulary) (registry : Registry)

/-! ### Nothing depends on the log -/

theorem run_reportCustom_fst (className : String) (log : NotificationLog) :
    ((reportCustom registry className).run.run log).1 = .ok () := by
  unfold reportCustom
  split <;> rfl

theorem steady_reportCustom (className : String) : Steady (reportCustom registry className) :=
  fun log log' => by rw [run_reportCustom_fst, run_reportCustom_fst]

@[simp]
theorem builds_reportCustom (className : String) (u : Unit) :
    Builds (reportCustom registry className) u := fun log => run_reportCustom_fst _ _ log

mutual

theorem steady_toExpression : ∀ element, Steady (toExpression vocabulary registry element)
  | mk tag attributes children text => by
    rw [toExpression]
    have hchildren := steady_toExpressions children
    split
    next => exact steady_ofExcept _
    next =>
      refine (steady_ofExcept _).bind fun className => (steady_reportCustom _ _).bind fun _ => ?_
      exact hchildren.bind fun _ => steady_pure _
    next => exact (steady_ofExcept _).bind fun _ => hchildren.bind fun _ => steady_pure _
    next => exact steady_throw _

theorem steady_toExpressions : ∀ elements, Steady (toExpressions vocabulary registry elements)
  | [] => steady_pure _
  | first :: rest => by
    rw [toExpressions]
    exact (steady_toExpression first).bind fun _ =>
      (steady_toExpressions rest).bind fun _ => steady_pure _

end

theorem steady_onlyExpression (element : Element) :
    Steady (onlyExpression vocabulary registry element) :=
  (steady_ofExcept _).bind fun _ => steady_toExpression _ _ _

mutual

theorem steady_toRule : ∀ element, Steady (toRule vocabulary registry element)
  | mk tag attributes children text => by
    rw [toRule]
    have hbranches := steady_toBranches tag true none children
    split
    next => exact steady_throw _
    next => exact steady_ofExcept _
    next =>
      exact (steady_ofExcept _).bind fun _ =>
        (steady_onlyExpression _ _ _).bind fun _ => steady_pure _
    next => exact (steady_onlyExpression _ _ _).bind fun _ => steady_pure _
    next =>
      refine hbranches.bind fun built => ?_
      dsimp only
      split
      · exact steady_throw _
      · exact steady_pure _

theorem steady_toRules : ∀ elements, Steady (toRules vocabulary registry elements)
  | [] => steady_pure _
  | first :: rest => by
    rw [toRules]
    exact (steady_toRule first).bind fun _ => (steady_toRules rest).bind fun _ => steady_pure _

theorem steady_toBranches (condition : String) (atStart : Bool) (otherwise : Option (List Rule)) :
    ∀ elements, Steady (toBranches vocabulary registry condition atStart otherwise elements)
  | [] => by
    rw [toBranches]
    exact steady_pure _
  | mk tag attributes children text :: rest => by
    have hrest (otherwise : Option (List Rule)) := steady_toBranches condition false otherwise rest
    have hrules := steady_toRules children
    rw [toBranches.eq_def]
    dsimp only
    split
    · exact steady_throw _
    · split
      · exact hrules.bind fun _ => hrest _
      · cases children with
        | nil => exact steady_throw _
        | cons guard actions =>
          have hactions := steady_toRules actions
          exact (steady_toExpression _ _ guard).bind fun _ => hactions.bind fun _ =>
            (hrest _).bind fun _ => steady_pure _

end

variable {vocabulary registry}

/-! ### Expressions -/

/-- Elements build a list of expressions if each builds one. -/
theorem builds_toExpressions_iff {elements : List Element} {expressions : List Expression} :
    Builds (toExpressions vocabulary registry elements) expressions ↔
      List.Forall₂ (fun element => Builds (toExpression vocabulary registry element)) elements
        expressions := by
  induction elements generalizing expressions with
  | nil => rw [toExpressions, builds_pure, List.forall₂_nil_left_iff]
  | cons first rest ih =>
    have hrest := steady_toExpressions vocabulary registry rest
    rw [toExpressions, builds_bind (steady_toExpression _ _ _)
      fun _ => hrest.bind fun _ => steady_pure _]
    simp only [builds_bind hrest fun _ => steady_pure _, ih, builds_pure,
      List.forall₂_cons_left_iff]
    exact ⟨fun ⟨a, h, l, hl, heq⟩ => ⟨a, l, h, hl, heq⟩,
      fun ⟨a, l, h, hl, heq⟩ => ⟨a, h, l, hl, heq⟩⟩

/-- An element builds an expression by its attributes and its text alone, as an operator of an
extension over the elements in it, or as a built-in operator over them. -/
theorem builds_toExpression_iff {element : Element} {expression : Expression} :
    Builds (toExpression vocabulary registry element) expression ↔
      (∃ build, vocabulary.expressions.get? element.tag = some (.leaf build) ∧
        build element = .ok expression) ∨
      (vocabulary.expressions.get? element.tag = some .custom ∧
        ∃ className operands, element.required "class" = .ok className ∧
          List.Forall₂ (fun element => Builds (toExpression vocabulary registry element))
            element.children operands ∧ expression = .custom className operands) ∨
      (vocabulary.expressions.get? element.tag = none ∧
        ∃ build operator operands, vocabulary.operators.get? element.tag = some build ∧
          build element = .ok operator ∧
          List.Forall₂ (fun element => Builds (toExpression vocabulary registry element))
            element.children operands ∧ expression = .apply operator operands) := by
  obtain ⟨tag, attributes, children, text⟩ := element
  have hchildren := steady_toExpressions vocabulary registry children
  rw [toExpression]
  simp only [Element.tag, Element.children]
  split
  next build hform =>
    simp [hform]
  next hform =>
    rw [builds_bind (steady_ofExcept _) fun _ => (steady_reportCustom _ _).bind fun _ =>
      hchildren.bind fun _ => steady_pure _]
    simp only [builds_bind (steady_reportCustom _ _) fun _ => hchildren.bind fun _ => steady_pure _,
      builds_bind hchildren fun _ => steady_pure _, builds_toExpressions_iff]
    simp [hform]
  next build hform hoperator =>
    rw [builds_bind (steady_ofExcept _) fun _ => hchildren.bind fun _ => steady_pure _]
    simp only [builds_bind hchildren fun _ => steady_pure _, builds_toExpressions_iff]
    simp [hform, hoperator]
  next hform hoperator => simp [hform, hoperator]

theorem onlyChild_eq_ok_iff {element child : Element} :
    element.onlyChild = .ok child ↔ element.children = [child] := by
  obtain ⟨tag, attributes, children, text⟩ := element
  match children with
  | [] | [_] | _ :: _ :: _ => simp [onlyChild, Element.children]

theorem builds_onlyExpression_iff {element : Element} {expression : Expression} :
    Builds (onlyExpression vocabulary registry element) expression ↔
      ∃ child, element.children = [child] ∧
        Builds (toExpression vocabulary registry child) expression := by
  rw [onlyExpression, builds_bind (steady_ofExcept _) (steady_toExpression _ _)]
  simp only [builds_ofExcept, onlyChild_eq_ok_iff]

/-! ### Rules -/

/-- Elements build a list of rules if each builds one. -/
theorem builds_toRules_iff {elements : List Element} {rules : List Rule} :
    Builds (toRules vocabulary registry elements) rules ↔
      List.Forall₂ (fun element => Builds (toRule vocabulary registry element)) elements
        rules := by
  induction elements generalizing rules with
  | nil => rw [toRules, builds_pure, List.forall₂_nil_left_iff]
  | cons first rest ih =>
    have hrest := steady_toRules vocabulary registry rest
    rw [toRules, builds_bind (steady_toRule _ _ _) fun _ => hrest.bind fun _ => steady_pure _]
    simp only [builds_bind hrest fun _ => steady_pure _, ih, builds_pure,
      List.forall₂_cons_left_iff]
    exact ⟨fun ⟨a, h, l, hl, heq⟩ => ⟨a, l, h, hl, heq⟩,
      fun ⟨a, l, h, hl, heq⟩ => ⟨a, h, l, hl, heq⟩⟩

/-- An element builds a rule by its attributes alone, as an assignment or a constraint of the one
expression in it, or as a condition with the branches in it. -/
theorem builds_toRule_iff {element : Element} {rule : Rule} :
    Builds (toRule vocabulary registry element) rule ↔
      (∃ build, vocabulary.rules.get? element.tag = some (.leaf build) ∧
        build element = .ok rule) ∨
      (∃ target, vocabulary.rules.get? element.tag = some (.assignment target) ∧
        ∃ name expression, Vocabulary.nameOf element "identifier" = .ok name ∧
          Builds (onlyExpression vocabulary registry element) expression ∧
          rule = .assign target name expression) ∨
      (vocabulary.rules.get? element.tag = some .constraint ∧
        ∃ expression, Builds (onlyExpression vocabulary registry element) expression ∧
          rule = .constraint expression) ∨
      (vocabulary.rules.get? element.tag = some .condition ∧
        ∃ branches otherwise,
          Builds (toBranches vocabulary registry element.tag true none element.children)
            (branches, otherwise) ∧
          branches ≠ [] ∧ rule = .condition branches otherwise) := by
  obtain ⟨tag, attributes, children, text⟩ := element
  have hexpression := steady_onlyExpression vocabulary registry (mk tag attributes children text)
  rw [toRule]
  simp only [Element.tag, Element.children]
  split
  next hform => simp [hform]
  next build hform => simp [hform]
  next target hform =>
    rw [builds_bind (steady_ofExcept _) fun _ => hexpression.bind fun _ => steady_pure _]
    simp only [builds_bind hexpression fun _ => steady_pure _]
    simp [hform]
  next hform =>
    rw [builds_bind hexpression fun _ => steady_pure _]
    simp [hform]
  next hform =>
    rw [builds_bind (steady_toBranches _ _ _ _ _ _)]
    · simp only [hform, reduceCtorEq, Option.some.injEq, false_and, exists_false, false_or,
        true_and, Prod.exists]
      refine exists₂_congr fun branches otherwise => and_congr_right fun _ => ?_
      cases branches <;> simp
    · intro built
      split
      · exact steady_throw _
      · exact steady_pure _

end Element

end Assessment
