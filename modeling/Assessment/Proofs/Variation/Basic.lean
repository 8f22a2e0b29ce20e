import Assessment.Proofs.Agreement
import Assessment.Proofs.Evaluation

/-!
# Variations of sessions

The same session may be run once more with another level of notifications, with another seed, or at
a later time. This module says what a second run has in common with the first: its logs keep the
notifications from the other level on, its times are later by one delay, and its random numbers are
the same where the seed is.

Random numbers are drawn by few expressions. All others have the same values in both runs and report
the same, so that rules without random numbers cannot tell one seed from another.

## Main definitions

- `Variation`: two engines, a delay, and whether both runs have the same seed.
- `Variation.Logs`, `Variation.Environments` and `Timestamp.Later`: what is related in two runs.
- `Expression.draws`: whether a node of an expression draws random numbers.
- `View.Alike`: two views that differ in nothing that an expression looks at.

## Main results

- `Variation.Logs.record` and `Variation.Logs.extend`: logs stay related.
- `Timestamp.Later.secondsSince?`: the time between two moments is the same in both runs.
- `Variation.alike_tryEvaluate`: an expression has the same value in both runs.
-/

namespace Assessment

open Action Evaluation

/-! ### Logs -/

namespace NotificationLog

/-- The notifications of a list from a level on. -/
def keepingFrom (level : Level) (entries : List Notification) : NotificationLog :=
  ⟨level, entries.filter fun entry => level.rank ≤ entry.level.rank⟩

theorem record_keepingFrom (level : Level) (entries : List Notification)
    (notification : Notification) :
    (keepingFrom level entries).record notification =
      keepingFrom level (entries ++ [notification]) := by
  by_cases h : level.rank ≤ notification.level.rank <;> simp [keepingFrom, record, keeps, h]

theorem extend_keepingFrom (level : Level) (entries others : List Notification) :
    (keepingFrom level entries).extend (keepingFrom level others) =
      keepingFrom level (entries ++ others) := by
  have hkeeps : ∀ kept, (keepingFrom level entries).keeps kept = decide (level.rank ≤ kept.rank) :=
    fun _ => rfl
  simp only [extend, hkeeps]
  simp [keepingFrom, List.filter_filter]

end NotificationLog

/-! ### Times -/

namespace Timestamp

/-- A moment on the logical clock and one that is later by a delay. -/
def Later (delay : Nat) : Timestamp → Timestamp → Prop
  | logical ticks, logical ticks' => ticks'.toNat = ticks.toNat + delay
  | _, _ => False

/-- Between two moments lies the same time as between moments that are later by one delay. -/
theorem Later.secondsSince? {delay : Nat} {now now' last last' : Timestamp}
    (hnow : Later delay now now') (hlast : Later delay last last') :
    now'.secondsSince? last' = now.secondsSince? last := by
  match now, now', last, last', hnow, hlast with
  | logical _, logical _, logical _, logical _, hnow, hlast =>
    unfold Later at hnow hlast
    simp only [Timestamp.secondsSince?, millisSince?, hnow, hlast, Nat.add_sub_add_right]

end Timestamp

/-! ### Two runs -/

/-- Two runs of the same sessions. They know the same extensions, and their options differ at most
in the level of notifications and in the seed where none is given. -/
structure Variation where
  /-- The engine of the first run. -/
  engine : Engine
  /-- The engine of the second run. -/
  engine' : Engine
  /-- The same extensions are known. -/
  registry : engine'.registry = engine.registry
  /-- Integers outside the range of words are treated alike. -/
  overflow : engine'.options.overflow = engine.options.overflow
  /-- Template processing is tried as often. -/
  attempts : engine'.options.maxTemplateAttempts = engine.options.maxTemplateAttempts
  /-- How much later the second run is. -/
  delay : Nat
  /-- The sessions have the same seed. -/
  sameSeed : Prop

namespace Variation

variable {v : Variation} {log log' other other' : NotificationLog}

/-- The same was reported in both runs, and each keeps it from its own level on. -/
def Logs (v : Variation) (log log' : NotificationLog) : Prop :=
  ∃ entries, log = .keepingFrom v.engine.options.level entries ∧
    log' = .keepingFrom v.engine'.options.level entries

theorem logs_empty (v : Variation) :
    v.Logs (.empty v.engine.options.level) (.empty v.engine'.options.level) := ⟨[], rfl, rfl⟩

theorem Logs.record (h : v.Logs log log') (notification : Notification) :
    v.Logs (log.record notification) (log'.record notification) := by
  obtain ⟨entries, rfl, rfl⟩ := h
  exact ⟨entries ++ [notification], NotificationLog.record_keepingFrom _ _ _,
    NotificationLog.record_keepingFrom _ _ _⟩

theorem Logs.extend (h : v.Logs log log') (h' : v.Logs other other') :
    v.Logs (log.extend other) (log'.extend other') := by
  obtain ⟨entries, rfl, rfl⟩ := h
  obtain ⟨others, rfl, rfl⟩ := h'
  exact ⟨entries ++ others, NotificationLog.extend_keepingFrom _ _ _,
    NotificationLog.extend_keepingFrom _ _ _⟩

/-- With one level, both runs report the same. -/
theorem Logs.eq (h : v.Logs log log') (hlevel : v.engine'.options.level = v.engine.options.level) :
    log' = log := by
  obtain ⟨entries, rfl, rfl⟩ := h
  rw [hlevel]

/-- Where the first run keeps everything, the second run keeps of it what its level asks for. -/
theorem Logs.eq_keepingFrom (h : v.Logs log log') (hlevel : v.engine.options.level = .info) :
    log' = .keepingFrom v.engine'.options.level log.entries := by
  obtain ⟨entries, rfl, rfl⟩ := h
  rw [hlevel]
  simp [NotificationLog.keepingFrom, Level.rank]

/-- Environments of two runs: the same random numbers come next if the seed is the same. -/
structure Environments (v : Variation) (environment environment' : Environment) : Prop where
  /-- The same random numbers come next. -/
  random : v.sameSeed → environment.random = environment'.random
  /-- The same was reported. -/
  log : v.Logs environment.log environment'.log

theorem Environments.record {environment environment' : Environment}
    (h : v.Environments environment environment') (notification : Notification) :
    v.Environments (environment.record notification) (environment'.record notification) :=
  ⟨h.random, h.log.record notification⟩

/-- A pass has related environments in both runs. -/
theorem environments_forPass {seed seed' pass pass' : UInt64} (hseed : v.sameSeed → seed = seed')
    (hpass : pass' = pass) :
    v.Environments (.forPass seed pass v.engine.options.level)
      (.forPass seed' pass' v.engine'.options.level) where
  random hsame := by rw [hseed hsame, hpass]; rfl
  log := v.logs_empty

end Variation

/-! ### Random numbers -/

/-- Whether a node draws random numbers, apart from its operands. -/
def Expression.draws : Expression → Bool
  | randomInteger _ _ _ | randomFloat _ _ | apply .random _ => true
  | _ => false

/-- A node of an expression may be evaluated in both runs: it draws no random numbers, or they are
the same. -/
def Variation.Admits (v : Variation) (node : Expression) : Prop :=
  v.sameSeed ∨ node.draws = false

/-- A whole expression may be evaluated in both runs. -/
abbrev Variation.AdmitsWhole (v : Variation) (expression : Expression) : Prop :=
  ∀ node ∈ expression.walk, v.Admits node

/-- Every operator but one finds its value without drawing. -/
theorem Operator.exists_apply_eq {operator : Operator} (h : operator ≠ .random)
    (policy : OverflowPolicy) (operands : List Value) :
    ∃ result : Except RuntimeFault Value,
      ∀ source, operator.apply policy operands source = result.map (·, source) := by
  by_cases hnull : (!operator.takesNull && operands.any Value.isNull) = true
  · refine ⟨.ok .null, fun source => ?_⟩
    rw [Operator.apply, if_pos hnull]
    · rfl
    · exact h
  · refine ⟨operator.compute policy operands, fun source => ?_⟩
    rw [Operator.apply, if_neg hnull]
    · cases operator.compute policy operands <;> rfl
    · exact h

namespace Evaluation

variable {v : Variation} {environment environment' : Environment} {α : Type}

/-- A random number is drawn in both runs, or nothing is drawn in either. -/
theorem alike_drawn {draw : RandomSource → Except RuntimeFault (α × RandomSource)}
    (hdraw : v.sameSeed ∨ ∃ result : Except RuntimeFault α,
      ∀ source, draw source = result.map (·, source))
    (h : v.Environments environment environment') :
    Alike v.Environments (drawn draw) (drawn draw) environment environment' := by
  obtain hsame | ⟨result, hresult⟩ := hdraw
  · rw [drawn, alike_get_bind, h.random hsame]
    cases draw environment'.random with
    | error error => exact alike_throw h
    | ok answer => exact (alike_modify ⟨fun _ => rfl, h.log⟩).bind fun _ _ _ h => alike_pure h
  · -- The source may differ, but the result does not depend on it.
    rw [drawn, alike_get_bind, hresult, hresult]
    cases result with
    | error error => exact alike_throw h
    | ok a => exact (alike_modify ⟨h.random, h.log⟩).bind fun _ _ _ h => alike_pure h

section leaf

variable {related : Environment → Environment → Prop} {view : View}

theorem alike_fault (error : RuntimeFault) (h : related environment environment') :
    Alike related (fault error : Evaluation α) (fault error) environment environment' :=
  alike_throw h

theorem alike_found (result : Except LogicError α) (h : related environment environment') :
    Alike related (found result) (found result) environment environment' := by
  cases result with
  | ok a => exact alike_pure h
  | error error => exact alike_throw h

theorem alike_responseDeclaration (operation : String) (name : Identifier)
    (h : related environment environment') :
    Alike related (responseDeclaration view operation name)
      (responseDeclaration view operation name) environment environment' := by
  unfold responseDeclaration
  split
  next => exact alike_pure h
  next => exact alike_fault _ h
  next => exact alike_fault _ h

theorem alike_mappedScore (name : Identifier) (h : related environment environment') :
    Alike related (mappedScore view name) (mappedScore view name) environment environment' := by
  refine (alike_responseDeclaration _ _ h).bind fun declaration _ _ h => ?_
  cases declaration.mapping with
  | none => exact alike_fault _ h
  | some mapping => exact (alike_found _ h).bind fun _ _ _ h => alike_pure h

theorem alike_mappedPointScore (name : Identifier) (h : related environment environment') :
    Alike related (mappedPointScore view name) (mappedPointScore view name) environment
      environment' := by
  refine (alike_responseDeclaration _ _ h).bind fun declaration _ _ h => ?_
  cases declaration.areaMapping with
  | none => exact alike_fault _ h
  | some mapping =>
    dsimp only
    split
    next => exact alike_fault _ h
    next => exact (alike_found _ h).bind fun _ _ _ h => alike_pure h

theorem alike_aggregated (operation : String) (h : related environment environment') :
    Alike related (aggregated view operation) (aggregated view operation) environment
      environment' := by
  unfold aggregated
  split
  next => exact alike_pure h
  next => exact alike_throw h

/-- A leaf that draws no random numbers looks at no environment. -/
theorem alike_evaluateLeaf {node : Expression} (hnode : node.draws = false)
    (h : related environment environment') :
    Alike related (evaluateLeaf view node) (evaluateLeaf view node) environment environment' := by
  cases node with
  | baseValue _ | null | mathConstant _ | apply _ _ | custom _ _ => exact alike_pure h
  | valueOf name weight => exact (alike_found _ h).bind fun _ _ _ h => alike_pure h
  | defaultOf name | correctOf name => exact alike_found _ h
  | mapResponse name => exact alike_mappedScore name h
  | mapResponsePoint name => exact alike_mappedPointScore name h
  | randomInteger _ _ _ | randomFloat _ _ => cases hnode
  | countItems count subset => exact (alike_aggregated _ h).bind fun _ _ _ h => alike_pure h
  | testVariables name weight baseType subset =>
    refine (alike_aggregated _ h).bind fun items _ _ h => ?_
    dsimp only
    split
    next => exact alike_pure h
    next => exact alike_throw h
  | outcomeBounds bound name weight subset =>
    exact (alike_aggregated _ h).bind fun _ _ _ h => alike_computed _ h

end leaf

end Evaluation

/-! ### Views -/

/-- What a session keeps apart from its times and its seed. -/
def ItemState.timeless (state : ItemState) : ItemState :=
  { state with entryTime := none, endTime := none, lastEvent := none, seed := 0 }

/-- An item with what its session keeps apart from its times and its seed. -/
def TestItem.timeless (item : TestItem) : TestItem := { item with state := item.state.timeless }

/-- Two views that differ at most in the times and the seeds of the items to aggregate over. -/
structure View.Alike (view view' : View) : Prop where
  /-- Names mean the same variables. -/
  declaration? : view'.declaration? = view.declaration?
  /-- Variables have the same values. -/
  value : view'.value = view.value
  /-- Variables have the same defaults. -/
  defaultValue : view'.defaultValue = view.defaultValue
  /-- Variables have the same correct answers. -/
  correctValue : view'.correctValue = view.correctValue
  /-- Names mean the same factors. -/
  weight? : view'.weight? = view.weight?
  /-- The items are the same apart from times and seeds. -/
  items : ∀ operation,
    Couple (fun items items' => items'.map TestItem.timeless = items.map TestItem.timeless) Eq
      (view.items operation) (view'.items operation)

theorem View.Alike.refl (view : View) : view.Alike view := by
  refine ⟨rfl, rfl, rfl, rfl, rfl, fun operation => ?_⟩
  apply couple_self
  · exact fun _ => rfl
  · exact fun _ => rfl

section aggregates

variable (items : List TestItem)

theorem countItems_map_timeless (count : ItemCount) (subset : ItemSubset) :
    countItems count subset (items.map TestItem.timeless) = countItems count subset items := by
  rw [countItems, countItems, List.filter_map, List.countP_map]
  cases count <;> rfl

theorem testVariables_map_timeless (name : Identifier) (weight : Option Identifier)
    (baseType : Option BaseType) (subset : ItemSubset) :
    testVariables (fun item => item.state.read item.definition name) weight baseType subset
        (items.map TestItem.timeless) =
      testVariables (fun item => item.state.read item.definition name) weight baseType subset
        items := by
  rw [testVariables, testVariables, List.filter_map, List.mapM_map]
  rfl

theorem outcomeBounds_map_timeless (bound : OutcomeBound) (name : Identifier)
    (weight : Option Identifier) (subset : ItemSubset) :
    outcomeBounds bound name weight subset (items.map TestItem.timeless) =
      outcomeBounds bound name weight subset items := by
  have hdeclared : (items.map TestItem.timeless).filter subset.accepts =
      (items.filter subset.accepts).map TestItem.timeless := by
    rw [List.filter_map]
    rfl
  have hpairs : (fun item => (item.definition.outcome? name).map (item, ·)) ∘ TestItem.timeless =
      fun item => ((item.definition.outcome? name).map (item, ·)).map
        (Prod.map TestItem.timeless id) := by
    funext item
    change (item.definition.outcome? name).map _ = _
    cases item.definition.outcome? name <;> rfl
  unfold outcomeBounds
  rw [hdeclared, List.filterMap_map, hpairs, ← List.map_filterMap]
  dsimp only
  rw [List.mapM_map]
  rfl

end aggregates

namespace View.Alike

variable {view view' : View} {α : Type}

/-- To go on with the items of one view is to go on with those of the other, where it does not
matter at what times their sessions are. -/
theorem aggregated_bind (h : view.Alike view') {f : List TestItem → Evaluation α}
    (hf : ∀ items, f (items.map TestItem.timeless) = f items) (operation : String) :
    (aggregated view' operation >>= f) = (aggregated view operation >>= f) := by
  have hitems := h.items operation
  unfold aggregated
  cases hfirst : view.items operation <;> cases hsecond : view'.items operation <;>
    rw [hfirst, hsecond] at hitems
  case ok.ok items items' =>
    simp only [pure_bind]
    rw [← hf items, ← hf items', hitems]
  case error.error =>
    cases hitems
    rfl
  all_goals exact hitems.elim

/-- A leaf has the same value in views that differ in nothing that it looks at. -/
theorem evaluateLeaf (h : view.Alike view') (node : Expression) :
    Assessment.evaluateLeaf view' node = Assessment.evaluateLeaf view node := by
  cases node with
  | valueOf name weight => simp only [Assessment.evaluateLeaf, h.value, h.weight?]
  | defaultOf name => simp only [Assessment.evaluateLeaf, h.defaultValue]
  | correctOf name => simp only [Assessment.evaluateLeaf, h.correctValue]
  | mapResponse name =>
    simp only [Assessment.evaluateLeaf, mappedScore, responseDeclaration, h.declaration?, h.value]
  | mapResponsePoint name =>
    simp only [Assessment.evaluateLeaf, mappedPointScore, responseDeclaration, h.declaration?,
      h.value]
  | countItems count subset =>
    exact h.aggregated_bind (fun items => by rw [countItems_map_timeless]) _
  | testVariables name weight baseType subset =>
    refine h.aggregated_bind (fun items => ?_) _
    dsimp only
    rw [testVariables_map_timeless]
  | outcomeBounds bound name weight subset =>
    exact h.aggregated_bind (fun items => by rw [outcomeBounds_map_timeless]) _
  | baseValue _ | null | mathConstant _ | randomInteger _ _ _ | randomFloat _ _ | apply _ _
  | custom _ _ => rfl

end View.Alike

/-! ### Expressions -/

namespace Variation

variable {v : Variation} {view view' : View} {environment environment' : Environment}

/-- Nodes that both runs may evaluate have the same values in both. -/
theorem nodesAlike (v : Variation) (hview : view.Alike view') :
    Expression.NodesAlike v.engine v.engine' view view' v.Admits v.Environments where
  registry := v.registry
  leaf {node _ _} hnode h := by
    rw [hview.evaluateLeaf]
    by_cases hdraws : node.draws = false
    · exact alike_evaluateLeaf hdraws h
    · -- The node draws random numbers, which are the same in both runs.
      have hsame : v.sameSeed := hnode.resolve_right hdraws
      cases node with
      | randomInteger _ _ _ | randomFloat _ _ => exact alike_drawn (.inl hsame) h
      | apply _ _ => exact alike_pure h
      | _ => exact absurd rfl hdraws
  builtIn {operator operands _ _} values hnode h := by
    rw [v.overflow]
    refine alike_drawn (hnode.imp_right fun hdraws => ?_) h
    refine Operator.exists_apply_eq ?_ _ _
    rintro rfl
    cases hdraws
  record notification h := h.record notification

/-- An expression has the same value in both runs. -/
theorem alike_tryEvaluate {expression : Expression} (hview : view.Alike view')
    (hnodes : v.AdmitsWhole expression)
    (h : v.Environments environment environment') :
    Alike v.Environments (expression.tryEvaluate v.engine view)
      (expression.tryEvaluate v.engine' view') environment environment' :=
  (v.nodesAlike hview).alike_tryEvaluate expression hnodes h

/-- An expression has the same value in both runs where its faults are recorded. -/
theorem alike_evaluate {expression : Expression} (hview : view.Alike view')
    (hnodes : v.AdmitsWhole expression)
    (h : v.Environments environment environment') :
    Alike v.Environments (expression.evaluate v.engine view)
      (expression.evaluate v.engine' view') environment environment' := by
  obtain ⟨hresult, hleft⟩ := alike_tryEvaluate hview hnodes h
  unfold Alike
  rw [Expression.run_evaluate, Expression.run_evaluate]
  generalize (expression.tryEvaluate v.engine view).run.run environment = answer at hresult hleft
  generalize (expression.tryEvaluate v.engine' view').run.run environment' = answer'
    at hresult hleft
  obtain ⟨result, left⟩ := answer
  obtain ⟨_, left'⟩ := answer'
  cases hresult
  cases result with
  | ok value => exact ⟨rfl, hleft⟩
  | error fault =>
    cases fault with
    | logic error => exact ⟨rfl, hleft⟩
    | runtime error => exact ⟨rfl, hleft.record _⟩

end Variation

end Assessment
