import Assessment.Proofs.Coupling
import Assessment.Proofs.Execution

/-!
# Runs that agree

Rules look at a session through its view, and change it through the assignments of its stage. Two
sessions may therefore differ where neither looks: the same rules come to the same result on both,
report the same, and leave sessions that differ no further. This holds of runs that end with an
error as well, which leave a session too. It also holds of two engines in two environments, as far
as expressions cannot tell these apart.

A property that a single session keeps is a case of this. It relates a session to itself, and is
kept by every run of rules on a stage whose assignments keep it.

## Main definitions

- `Matches` and `Action.Alike`: computations and actions that come to the same, and leave states
  that are related.
- `Expression.NodesCoupled`: two views, two engines and a relation of environments for which the
  nodes of expressions have related values; `Expression.NodesAlike`: the same values.
- `Stage.Relates`: a relation of sessions that look alike to expressions, and that assignments keep.
- `Stage.Couples`: the same of two engines and of related environments.
- `Stage.Parallels`: a relation of sessions for which tests and assignments come to the same,
  whether expressions have the same values or not.

## Main results

- `Expression.NodesCoupled.coupled_tryEvaluate`: an expression has related values where its nodes
  have, and the same value where these have the same.
- `Expression.tryEvaluate_congr`: an expression has the same value in two views in which its leaves
  have.
- `Stage.Parallels.alike_execute` and `Stage.Parallels.alike_executeTemplate`: runs of rules on
  related sessions agree.
- `Execution.coupled_on`: runs of rules that agree are coupled as actions on sessions.
- `Rule.leaves_execute` and `Rule.leaves_executeTemplate`: what the stage keeps of a session is left
  however a run of rules ends.
-/

namespace Assessment

variable {σ τ ε δ α β γ : Type}

/-! ### Computations -/

/-- Two computations have results that are related, or fail with the same error. -/
def Matches (related : α → β → Prop) : Except ε α → Except ε β → Prop
  | .ok a, .ok b => related a b
  | .error first, .error second => first = second
  | _, _ => False

/-- A computation matches itself if the relation holds of its result. -/
theorem matches_self {related : α → α → Prop} {result : Except ε α}
    (h : ∀ a, result = .ok a → related a a) : Matches related result result := by
  cases result with
  | ok a => exact h a rfl
  | error error => exact rfl

theorem Matches.bind {related : α → β → Prop} {related' : σ → τ → Prop} {first : Except ε α}
    {second : Except ε β} {f : α → Except ε σ} {g : β → Except ε τ}
    (h : Matches related first second)
    (hnext : ∀ a b, related a b → Matches related' (f a) (g b)) :
    Matches related' (first >>= f) (second >>= g) := by
  cases first with
  | ok a =>
    cases second with
    | ok b => exact hnext a b h
    | error error => exact h.elim
  | error error =>
    cases second with
    | ok b => exact h.elim
    | error error' => exact h

/-! ### Actions -/

namespace Action

/-- However a run of the action ends, `holds` holds of the state that it leaves. -/
abbrev Leaves (action : Action σ ε α) (state : σ) (holds : σ → Prop) : Prop :=
  action.Ensures state (fun _ => holds) fun _ => holds

/-- What an action leaves is left by a run that ends with a result. -/
theorem Leaves.ok {action : Action σ ε α} {state left : σ} {holds : σ → Prop} {a : α}
    (h : action.Leaves state holds) (hrun : action.run.run state = (.ok a, left)) : holds left :=
  Ensures.ok h hrun

/-- What an action leaves is left by a run that ends with an error. -/
theorem Leaves.error {action : Action σ ε α} {state left : σ} {holds : σ → Prop} {error : ε}
    (h : action.Leaves state holds) (hrun : action.run.run state = (.error error, left)) :
    holds left :=
  Ensures.error h hrun

/-- What an action leaves is left however its run ends. -/
theorem Leaves.left {action : Action σ ε α} {state : σ} {holds : σ → Prop}
    (h : action.Leaves state holds) : holds (action.run.run state).2 := by
  rcases hrun : action.run.run state with ⟨_ | _, left⟩
  · exact h.error hrun
  · exact h.ok hrun

theorem Leaves.mono {action : Action σ ε α} {state : σ} {holds holds' : σ → Prop}
    (h : action.Leaves state holds) (hholds : ∀ left, holds left → holds' left) :
    action.Leaves state holds' :=
  Ensures.mono h (fun _ => hholds) fun _ => hholds

/-- What a sequence leaves is what its second part leaves after its first, or else what is left by
the first. -/
theorem Leaves.bind {action : Action σ ε α} {f : α → Action σ ε β} {state : σ}
    {holds holds' : σ → Prop} (h : action.Leaves state holds)
    (hnext : ∀ a left, holds left → (f a).Leaves left holds')
    (hweaken : ∀ left, holds left → holds' left) : (action >>= f).Leaves state holds' :=
  Ensures.bind h hnext fun _ => hweaken

/-- A sequence that begins with an action that changes nothing leaves what its second part
leaves. -/
theorem Leaves.read {action : Action σ ε α} {f : α → Action σ ε β} {state : σ} {holds : σ → Prop}
    (h : action.Leaves state (· = state)) (hnext : ∀ a, (f a).Leaves state holds)
    (hstate : holds state) : (action >>= f).Leaves state holds := by
  refine h.bind ?_ ?_
  · rintro a _ rfl
    exact hnext a
  · rintro _ rfl
    exact hstate

theorem leaves_map (f : α → β) {action : Action σ ε α} {state : σ} {holds : σ → Prop} :
    (f <$> action).Leaves state holds ↔ action.Leaves state holds :=
  ensures_map f action

/-- Runs of two actions, each from a state of its own, come to the same result or the same error,
and leave states that are related. -/
def Alike (related : σ → σ → Prop) (first second : Action σ ε α) (s t : σ) : Prop :=
  (first.run.run s).1 = (second.run.run t).1 ∧ related (first.run.run s).2 (second.run.run t).2

variable {related : σ → σ → Prop} {first second : Action σ ε α} {s t : σ}

theorem alike_pure {a : α} (h : related s t) : Alike related (pure a : Action σ ε α) (pure a) s t :=
  ⟨rfl, h⟩

theorem alike_throw {error : ε} (h : related s t) :
    Alike related (throw error : Action σ ε α) (throw error) s t := ⟨rfl, h⟩

theorem alike_set {next next' : σ} (h : related next next') :
    Alike related (set next : Action σ ε PUnit) (set next') s t := ⟨rfl, h⟩

theorem alike_modify {f g : σ → σ} (h : related (f s) (g t)) :
    Alike related (modify f : Action σ ε PUnit) (modify g) s t := ⟨rfl, h⟩

/-- To read the state is to go on with it. -/
@[simp]
theorem alike_get_bind {f g : σ → Action σ ε α} :
    Alike related (get >>= f) (get >>= g) s t ↔ Alike related (f s) (g t) s t := Iff.rfl

/-- To replace the state is to go on from the new one. -/
@[simp]
theorem alike_set_bind {next next' : σ} {f g : PUnit → Action σ ε α} :
    Alike related (set next >>= f) (set next' >>= g) s t ↔
      Alike related (f ⟨⟩) (g ⟨⟩) next next' := Iff.rfl

/-- Sequences are alike if their first parts are, and then their second parts from what these
leave. -/
theorem Alike.bind {f g : α → Action σ ε β} (h : Alike related first second s t)
    (hnext : ∀ a left left', related left left' → Alike related (f a) (g a) left left') :
    Alike related (first >>= f) (second >>= g) s t := by
  obtain ⟨hresult, hleft⟩ := h
  unfold Alike
  rw [run_bind, run_bind]
  rcases hfirst : first.run.run s with ⟨error | a, left⟩ <;>
    rcases hsecond : second.run.run t with ⟨error' | a', left'⟩ <;>
    rw [hfirst, hsecond] at hresult hleft <;> cases hresult
  · exact ⟨rfl, hleft⟩
  · exact hnext a left left' hleft

theorem Alike.rename (f : ε → δ) (h : Alike related first second s t) :
    Alike related (first.rename f) (second.rename f) s t := by
  obtain ⟨hresult, hleft⟩ := h
  unfold Alike
  rw [run_rename, run_rename]
  rcases hfirst : first.run.run s with ⟨error | a, left⟩ <;>
    rcases hsecond : second.run.run t with ⟨error' | a', left'⟩ <;>
    rw [hfirst, hsecond] at hresult hleft <;> cases hresult
  · exact ⟨rfl, hleft⟩
  · exact ⟨rfl, hleft⟩

/-- To agree is to be coupled by equality. -/
theorem alike_iff_coupled :
    Alike related first second s t ↔ Coupled related Eq Eq first second s t :=
  and_congr_left' couple_eq_iff.symm

/-- Actions that are alike are coupled. -/
theorem Alike.coupled {results : α → α → Prop} {errors : ε → ε → Prop}
    (h : Alike related first second s t) (hresults : ∀ a, results a a)
    (herrors : ∀ error, errors error error) : Coupled related results errors first second s t := by
  obtain ⟨hresult, hleft⟩ := h
  refine ⟨?_, hleft⟩
  rw [hresult]
  exact couple_self hresults herrors _

/-- Sequences are coupled if their first parts are alike, and their second parts are coupled from
what these leave. -/
theorem Alike.bind_coupled {errors : ε → ε → Prop}
    {results : β → γ → Prop} {f : α → Action σ ε β} {g : α → Action σ ε γ}
    (h : Alike related first second s t)
    (herrors : ∀ error, errors error error)
    (hnext : ∀ a left left', related left left' →
      Coupled related results errors (f a) (g a) left left') :
    Coupled related results errors (first >>= f) (second >>= g) s t := by
  refine (h.coupled (fun _ => rfl) herrors).bind ?_
  rintro a _ left left' rfl hleft
  exact hnext a left left' hleft

/-- Actions that come to the same from every state are the same. -/
theorem eq_of_alike (h : ∀ s, Alike Eq first second s s) : first = second :=
  funext fun s => Prod.ext (h s).1 (h s).2

/-- Runs of two actions come to the same result and leave related states if both end with a result.
If they are sure to, they are alike where one of them fails as well. -/
structure Coincide (sure : Prop) (related : σ → σ → Prop) (first second : Action σ ε α) (s t : σ) :
    Prop where
  /-- Results are the same. -/
  done : ∀ {a b left left'}, first.run.run s = (.ok a, left) → second.run.run t = (.ok b, left') →
    a = b ∧ related left left'
  /-- Failures are the same, and a run that fails does not differ from one that does not. -/
  alike : sure → Alike related first second s t

theorem Alike.coincide {sure : Prop} (h : Alike related first second s t) :
    Coincide sure related first second s t := by
  refine ⟨fun hfirst hsecond => ?_, fun _ => h⟩
  obtain ⟨hresult, hleft⟩ := h
  rw [hfirst, hsecond] at hresult hleft
  exact ⟨Except.ok.inj hresult, hleft⟩

/-- To read the state is to go on with it. -/
theorem coincide_get_bind {sure : Prop} {f g : σ → Action σ ε α}
    (h : Coincide sure related (f s) (g t) s t) :
    Coincide sure related (get >>= f) (get >>= g) s t := ⟨h.done, h.alike⟩

/-- Sequences coincide if their first parts do, and then their second parts from what these
leave. -/
theorem Coincide.bind {sure : Prop} {f g : α → Action σ ε β}
    (h : Coincide sure related first second s t)
    (hnext : ∀ a left left', related left left' → Coincide sure related (f a) (g a) left left') :
    Coincide sure related (first >>= f) (second >>= g) s t where
  done {b b' left left'} hfirst hsecond := by
    rw [run_bind] at hfirst hsecond
    rcases hrun : first.run.run s with ⟨error | a, between⟩ <;> rw [hrun] at hfirst
    · cases hfirst
    rcases hrun' : second.run.run t with ⟨error | a', between'⟩ <;> rw [hrun'] at hsecond
    · cases hsecond
    obtain ⟨rfl, hbetween⟩ := h.done hrun hrun'
    exact (hnext a between between' hbetween).done hfirst hsecond
  alike hsure := (h.alike hsure).bind fun a left left' hleft =>
    (hnext a left left' hleft).alike hsure

/-- A state that is related to itself is all that an action leaves, if the action is alike to
itself. -/
theorem Alike.leaves {holds : σ → Prop} {action : Action σ ε α}
    (h : Alike (fun s t => s = t ∧ holds s) action action s s) : action.Leaves s holds := by
  obtain ⟨-, -, hholds⟩ := h
  unfold Leaves Ensures
  split <;> rename_i hrun <;> rw [hrun] at hholds <;> exact hholds

theorem Leaves.alike {holds : σ → Prop} {action : Action σ ε α} (h : action.Leaves s holds) :
    Alike (fun s t => s = t ∧ holds s) action action s s := by
  refine ⟨rfl, rfl, ?_⟩
  unfold Leaves Ensures at h
  split at h <;> rename_i hrun <;> rw [hrun] <;> exact h

end Action

open Action Evaluation

/-- The result of an operation on values is found without a look at the environment. -/
theorem Evaluation.alike_computed {related : Environment → Environment → Prop} {s t : Environment}
    (result : Except RuntimeFault α) (h : related s t) :
    Alike related (computed result) (computed result) s t := by
  cases result with
  | ok a => exact alike_pure h
  | error error => exact alike_throw h

/-! ### Expressions -/

namespace Expression

/-- Nodes of which `admits` holds have values of which `values` holds in two views, whatever related
environments they are evaluated in, and leave environments that are related. -/
structure NodesCoupled (engine engine' : Engine) (view view' : View) (admits : Expression → Prop)
    (values : Value → Value → Prop) (related : Environment → Environment → Prop) : Prop where
  /-- The same extensions are known. -/
  registry : engine'.registry = engine.registry
  /-- The value of a leaf is found. -/
  leaf : ∀ {node s t}, admits node → related s t →
    Coupled related values Eq (evaluateLeaf view node) (evaluateLeaf view' node) s t
  /-- An operator is applied to the values of its operands. -/
  builtIn : ∀ {operator operands given given' s t}, admits (.apply operator operands) →
    List.Forall₂ values given given' → related s t →
    Coupled related values Eq (drawn (operator.apply engine.options.overflow given))
      (drawn (operator.apply engine'.options.overflow given')) s t
  /-- So is an operator of an extension. -/
  extension : ∀ {className operands entry given given' s t}, admits (.custom className operands) →
    engine.registry.operator? className = some entry → List.Forall₂ values given given' →
    related s t →
    Coupled related values Eq (computed (customValue className entry.2 given))
      (computed (customValue className entry.2 given')) s t
  /-- Values that are related are the same truth value. -/
  triState? : ∀ {value value'}, values value value' → value'.triState? = value.triState?
  /-- A value is related to itself. -/
  refl : ∀ value, values value value
  /-- The same is recorded in both environments. -/
  record : ∀ {s t} notification, related s t →
    related (s.record notification) (t.record notification)

/-- Nodes of which `admits` holds have the same values in two views, whatever related environments
they are evaluated in, and leave environments that are related. -/
structure NodesAlike (engine engine' : Engine) (view view' : View) (admits : Expression → Prop)
    (related : Environment → Environment → Prop) : Prop where
  /-- The same extensions are known. -/
  registry : engine'.registry = engine.registry
  /-- The value of a leaf is found. -/
  leaf : ∀ {node s t}, admits node → related s t →
    Alike related (evaluateLeaf view node) (evaluateLeaf view' node) s t
  /-- An operator is applied to the values of its operands. -/
  builtIn : ∀ {operator operands s t} values, admits (.apply operator operands) → related s t →
    Alike related (drawn (operator.apply engine.options.overflow values))
      (drawn (operator.apply engine'.options.overflow values)) s t
  /-- The same is recorded in both environments. -/
  record : ∀ {s t} notification, related s t →
    related (s.record notification) (t.record notification)

namespace NodesCoupled

variable {engine engine' : Engine} {view view' : View} {admits : Expression → Prop}
  {values : Value → Value → Prop} {related : Environment → Environment → Prop}

-- The recursion follows the nesting of operands.
mutual

/-- An expression has related values in two views in which its nodes have. -/
theorem coupled_tryEvaluate (h : NodesCoupled engine engine' view view' admits values related) :
    ∀ (expression : Expression) {s t : Environment}, (∀ node ∈ expression.walk, admits node) →
      related s t →
      Coupled related values Eq (tryEvaluate engine view expression)
        (tryEvaluate engine' view' expression) s t
  | apply operator operands, s, t, hnodes, hst => by
    have hnode := hnodes _ List.mem_cons_self
    have hoperands := fun node hnode => hnodes node (List.mem_cons_of_mem _ hnode)
    unfold tryEvaluate
    split
    next => exact coupled_throw rfl hst
    next =>
      split
      next => exact coupled_tryConnect h false operands none hoperands hst
      next => exact coupled_tryConnect h true operands none hoperands hst
      next =>
        exact (coupled_tryEvaluateAll h operands hoperands hst).bind fun _ _ _ _ hgiven hleft =>
          h.builtIn hnode hgiven hleft
  | custom className operands, s, t, hnodes, hst => by
    have hnode := hnodes _ List.mem_cons_self
    have hoperands := fun node hnode => hnodes node (List.mem_cons_of_mem _ hnode)
    rw [tryEvaluate, tryEvaluate, h.registry]
    cases hoperator : engine.registry.operator? className with
    | none =>
      exact coupled_modify_bind.2 (coupled_pure (h.refl _) (h.record _ hst))
    | some entry =>
      exact (coupled_tryEvaluateAll h operands hoperands hst).bind fun _ _ _ _ hgiven hleft =>
        h.extension hnode hoperator hgiven hleft
  | baseValue _, _, _, hnodes, hst | null, _, _, hnodes, hst | valueOf _ _, _, _, hnodes, hst
  | defaultOf _, _, _, hnodes, hst | correctOf _, _, _, hnodes, hst
  | mapResponse _, _, _, hnodes, hst | mapResponsePoint _, _, _, hnodes, hst
  | mathConstant _, _, _, hnodes, hst | randomInteger _ _ _, _, _, hnodes, hst
  | randomFloat _ _, _, _, hnodes, hst | countItems _ _, _, _, hnodes, hst
  | testVariables _ _ _ _, _, _, hnodes, hst | outcomeBounds _ _ _ _, _, _, hnodes, hst => by
    exact h.leaf (hnodes _ List.mem_cons_self) hst

/-- Several expressions have related values in two views in which their nodes have. -/
theorem coupled_tryEvaluateAll (h : NodesCoupled engine engine' view view' admits values related) :
    ∀ (expressions : List Expression) {s t : Environment},
      (∀ node ∈ walkAll expressions, admits node) → related s t →
      Coupled related (List.Forall₂ values) Eq (tryEvaluateAll engine view expressions)
        (tryEvaluateAll engine' view' expressions) s t
  | [], _, _, _, hst => coupled_pure .nil hst
  | first :: rest, s, t, hnodes, hst => by
    rw [tryEvaluateAll, tryEvaluateAll]
    refine (coupled_tryEvaluate h first (fun node hnode => ?_) hst).bind
      fun _ _ _ _ hvalue hleft => ?_
    · exact hnodes node (List.mem_append_left _ hnode)
    · refine (coupled_tryEvaluateAll h rest (fun node hnode => ?_) hleft).bind
        fun _ _ _ _ hvalues hleft => coupled_pure (.cons hvalue hvalues) hleft
      exact hnodes node (List.mem_append_right _ hnode)

/-- A connective has related values in two views in which the nodes of its operands have. -/
theorem coupled_tryConnect (h : NodesCoupled engine engine' view view' admits values related)
    (disjunction : Bool) :
    ∀ (expressions : List Expression) (before : Option TriState) {s t : Environment},
      (∀ node ∈ walkAll expressions, admits node) → related s t →
      Coupled related values Eq (tryConnect engine view disjunction before expressions)
        (tryConnect engine' view' disjunction before expressions) s t
  | [], _, _, _, _, hst => coupled_pure (h.refl _) hst
  | first :: rest, before, s, t, hnodes, hst => by
    rw [tryConnect, tryConnect]
    refine (coupled_tryEvaluate h first (fun node hnode => ?_) hst).bind
      fun value _ _ _ hvalue hleft => ?_
    · exact hnodes node (List.mem_append_left _ hnode)
    · simp only [h.triState? hvalue]
      cases value.triState? with
      | none => exact coupled_throw rfl hleft
      | some state =>
        -- Both evaluations stop at the same operand.
        refine coupled_ite (fun _ => coupled_pure (h.refl _) hleft) fun _ => ?_
        refine coupled_tryConnect h disjunction rest _ (fun node hnode => ?_) hleft
        exact hnodes node (List.mem_append_right _ hnode)

end

end NodesCoupled

namespace NodesAlike

variable {engine engine' : Engine} {view view' : View} {admits : Expression → Prop}
  {related : Environment → Environment → Prop}

/-- Nodes that have the same values have values that are related by equality. -/
theorem coupled (h : NodesAlike engine engine' view view' admits related) :
    NodesCoupled engine engine' view view' admits Eq related where
  registry := h.registry
  leaf hnode hst := alike_iff_coupled.1 (h.leaf hnode hst)
  builtIn hnode hgiven hst := by
    rw [List.forall₂_eq_eq_eq] at hgiven
    cases hgiven
    exact alike_iff_coupled.1 (h.builtIn _ hnode hst)
  extension _ _ hgiven hst := by
    rw [List.forall₂_eq_eq_eq] at hgiven
    cases hgiven
    exact alike_iff_coupled.1 (alike_computed _ hst)
  triState? hvalue := by rw [hvalue]
  refl _ := rfl
  record := h.record

/-- An expression has the same value in two views in which its nodes have. -/
theorem alike_tryEvaluate (h : NodesAlike engine engine' view view' admits related)
    (expression : Expression) {s t : Environment} (hnodes : ∀ node ∈ expression.walk, admits node)
    (hst : related s t) :
    Alike related (tryEvaluate engine view expression) (tryEvaluate engine' view' expression) s t :=
  alike_iff_coupled.2 (h.coupled.coupled_tryEvaluate expression hnodes hst)

end NodesAlike

/-- An expression has the same value in two views in which its leaves have. -/
theorem tryEvaluate_congr {view view' : View} (engine : Engine) (expression : Expression)
    (hnodes : ∀ node ∈ expression.walk, evaluateLeaf view node = evaluateLeaf view' node) :
    tryEvaluate engine view expression = tryEvaluate engine view' expression := by
  have halike : NodesAlike engine engine view view'
      (fun node => evaluateLeaf view node = evaluateLeaf view' node) Eq :=
    { registry := rfl
      leaf := by
        rintro node s _ hnode rfl
        rw [hnode]
        exact ⟨rfl, rfl⟩
      builtIn := by
        rintro operator operands s _ values - rfl
        exact ⟨rfl, rfl⟩
      record := by
        rintro s _ notification rfl
        rfl }
  exact eq_of_alike fun s => halike.alike_tryEvaluate expression hnodes rfl

end Expression

/-! ### Rules -/

/-- On a stage, sessions that are related look alike to the expressions of which `admits` holds,
and assignments keep them related. -/
structure Stage.Relates (engine : Engine) (stage : Stage σ) (admits : Expression → Prop)
    (related : σ → σ → Prop) : Prop where
  /-- Expressions have the same values. -/
  evaluate : ∀ {expression s t}, admits expression → related s t →
    expression.tryEvaluate engine (stage.view s) = expression.tryEvaluate engine (stage.view t)
  /-- Names mean the same variables. -/
  declaration? : ∀ {s t} name, related s t →
    (stage.view s).declaration? name = (stage.view t).declaration? name
  /-- Assigning a value keeps the relation. -/
  assign : ∀ {s t} name value, related s t →
    Matches related (stage.assign name value s) (stage.assign name value t)
  /-- Changing a correct answer keeps the relation. -/
  setCorrect : ∀ {s t overrides} name value, stage.overrides = some overrides → related s t →
    Matches related (overrides.setCorrect name value s) (overrides.setCorrect name value t)
  /-- Changing a default keeps the relation. -/
  setDefault : ∀ {s t overrides} name value, stage.overrides = some overrides → related s t →
    Matches related (overrides.setDefault name value s) (overrides.setDefault name value t)

/-- Runs on sessions that are related, in related environments. -/
structure Run.Related (environments : Environment → Environment → Prop) (related : σ → σ → Prop)
    (first second : Run σ) : Prop where
  /-- The sessions are related. -/
  session : related first.session second.session
  /-- The environments are related. -/
  environment : environments first.environment second.environment
  /-- A false constraint was let pass in both or in neither. -/
  relaxed : first.relaxed = second.relaxed

/-- On a stage, expressions of which `admits` holds have the same values for two engines in sessions
and environments that are related, and assignments and notes keep these related. -/
structure Stage.Couples (engine engine' : Engine) (stage : Stage σ) (admits : Expression → Prop)
    (environments : Environment → Environment → Prop) (related : σ → σ → Prop) : Prop where
  /-- Template processing is tried as often. -/
  attempts : engine'.options.maxTemplateAttempts = engine.options.maxTemplateAttempts
  /-- Expressions have the same values. -/
  evaluate : ∀ {expression s t environment environment'}, admits expression → related s t →
    environments environment environment' →
    Alike environments (expression.tryEvaluate engine (stage.view s))
      (expression.tryEvaluate engine' (stage.view t)) environment environment'
  /-- The same is recorded in both environments. -/
  record : ∀ {environment environment'} notification, environments environment environment' →
    environments (environment.record notification) (environment'.record notification)
  /-- Names mean the same variables. -/
  declaration? : ∀ {s t} name, related s t →
    (stage.view s).declaration? name = (stage.view t).declaration? name
  /-- Assigning a value keeps the relation. -/
  assign : ∀ {s t} name value, related s t →
    Matches related (stage.assign name value s) (stage.assign name value t)
  /-- Changing a correct answer keeps the relation. -/
  setCorrect : ∀ {s t overrides} name value, stage.overrides = some overrides → related s t →
    Matches related (overrides.setCorrect name value s) (overrides.setCorrect name value t)
  /-- Changing a default keeps the relation. -/
  setDefault : ∀ {s t overrides} name value, stage.overrides = some overrides → related s t →
    Matches related (overrides.setDefault name value s) (overrides.setDefault name value t)

/-- On sessions that look alike, runs of one engine have the same course in the same environment. -/
theorem Stage.Relates.couples {engine : Engine} {stage : Stage σ} {admits : Expression → Prop}
    {related : σ → σ → Prop} (h : stage.Relates engine admits related) :
    stage.Couples engine engine admits Eq related where
  attempts := rfl
  evaluate := by
    rintro expression s t environment _ hexpression hst rfl
    rw [h.evaluate hexpression hst]
    exact ⟨rfl, rfl⟩
  record := by
    rintro environment _ notification rfl
    rfl
  declaration? := h.declaration?
  assign := h.assign
  setCorrect := h.setCorrect
  setDefault := h.setDefault

/-- A value is prepared alike for sessions in which names mean the same variables. -/
theorem Stage.Couples.prepare_congr {engine engine' : Engine} {stage : Stage σ}
    {admits : Expression → Prop} {environments : Environment → Environment → Prop}
    {related : σ → σ → Prop} (hstage : stage.Couples engine engine' admits environments related)
    {s t : σ} (h : related s t) (target : Target) (name : Identifier) (value : Value) :
    prepare stage s target name value = prepare stage t target name value := by
  rw [prepare, prepare, hstage.declaration? name h]

namespace Execution

variable {engine engine' : Engine} {stage : Stage σ} {admits : Expression → Prop}
  {environments : Environment → Environment → Prop} {related : σ → σ → Prop} {first second : Run σ}

/-- Changes that match lead from related runs to related runs. -/
theorem alike_change {f g : σ → Except LogicError σ} (h : first.Related environments related second)
    (hchange : Matches related (f first.session) (g second.session)) :
    Alike (Run.Related environments related) (change f) (change g) first second := by
  simp only [change, alike_get_bind]
  cases hfirst : f first.session <;> cases hsecond : g second.session <;>
    rw [hfirst, hsecond] at hchange
  case ok.ok => exact alike_set ⟨hchange, h.environment, h.relaxed⟩
  case error.error =>
    cases hchange
    exact alike_throw h
  all_goals exact hchange.elim

theorem alike_note
    (hrecord : ∀ {environment environment'} notification, environments environment environment' →
      environments (environment.record notification) (environment'.record notification))
    (h : first.Related environments related second) (level : Level) (source : String)
    (message : Message) :
    Alike (Run.Related environments related) (note level source message)
      (note level source message) first second :=
  ⟨rfl, h.session, hrecord _ h.environment, h.relaxed⟩

/-- What is written for two values keeps runs related if the assignments that it comes to do. -/
theorem alike_write
    (hrecord : ∀ {environment environment'} notification, environments environment environment' →
      environments (environment.record notification) (environment'.record notification))
    (h : first.Related environments related second) (source : String) (target : Target)
    {name : Identifier} {value value' : Value}
    (hassign : Matches related (stage.assign name value first.session)
      (stage.assign name value' second.session))
    (hcorrect : ∀ overrides, stage.overrides = some overrides →
      Matches related (overrides.setCorrect name value first.session)
        (overrides.setCorrect name value' second.session))
    (hdefault : ∀ overrides, stage.overrides = some overrides →
      Matches related (overrides.setDefault name value first.session)
        (overrides.setDefault name value' second.session)) :
    Alike (Run.Related environments related) (write stage source target name value)
      (write stage source target name value') first second := by
  -- A stage without overrides only notes that a correct answer or a default was to be changed.
  have hassign := alike_change h hassign
  cases hover : stage.overrides with
  | none =>
    cases target <;> simp only [write, hover]
    case correctResponse => exact alike_note hrecord h _ _ _
    case defaultValue => exact alike_note hrecord h _ _ _
    all_goals exact hassign
  | some overrides =>
    cases target <;> simp only [write, hover]
    case correctResponse => exact alike_change h (hcorrect overrides hover)
    case defaultValue => exact alike_change h (hdefault overrides hover)
    all_goals exact hassign

section couples

variable (hstage : stage.Couples engine engine' admits environments related)
  (h : first.Related environments related second)

include hstage h

theorem alike_valueOf? {expression : Expression} (hexpression : admits expression)
    (source : String) :
    Alike (Run.Related environments related) (valueOf? engine stage source expression)
      (valueOf? engine' stage source expression) first second := by
  -- The evaluations leave related environments, also where they end with a fault.
  obtain ⟨hresult, hleft⟩ := hstage.evaluate hexpression h.session h.environment
  simp only [valueOf?, alike_get_bind]
  generalize (expression.tryEvaluate engine (stage.view first.session)).run.run
    first.environment = answer at hresult hleft
  generalize (expression.tryEvaluate engine' (stage.view second.session)).run.run
    second.environment = answer' at hresult hleft
  obtain ⟨result, environment⟩ := answer
  obtain ⟨_, environment'⟩ := answer'
  cases hresult
  have hafter : Run.Related environments related { first with environment }
      { second with environment := environment' } := ⟨h.session, hleft, h.relaxed⟩
  rw [alike_set_bind]
  cases result with
  | ok value => exact alike_pure hafter
  | error fault =>
    cases fault with
    | logic error => exact alike_throw hafter
    | runtime fault =>
      exact (alike_note hstage.record hafter _ _ _).bind fun _ _ _ h => alike_pure h

theorem alike_isTrue {test : Expression} (htest : admits test) (source : String) :
    Alike (Run.Related environments related) (isTrue engine stage source test)
      (isTrue engine' stage source test) first second := by
  refine (alike_valueOf? hstage h htest source).bind ?_
  intro value left left' hleft
  cases value with
  | none => exact alike_pure hleft
  | some value =>
    dsimp only
    split
    next => exact alike_pure hleft
    next =>
      cases value.bool? with
      | some truth => exact alike_pure hleft
      | none => exact (alike_note hstage.record hleft _ _ _).bind fun _ _ _ h => alike_pure h

theorem alike_assign {expression : Expression} (hexpression : admits expression) (target : Target)
    (name : Identifier) :
    Alike (Run.Related environments related) (assign engine stage target name expression)
      (assign engine' stage target name expression) first second := by
  refine (alike_valueOf? hstage h hexpression _).bind ?_
  intro given left left' hleft
  cases given with
  | none => exact alike_pure hleft
  | some given =>
    simp only [alike_get_bind, hstage.prepare_congr hleft.session]
    cases prepare stage left'.session target name given with
    | error problem => exact alike_note hstage.record hleft _ _ _
    | ok value =>
      exact alike_write hstage.record hleft _ _ (hstage.assign name value hleft.session)
        (fun _ hover => hstage.setCorrect name value hover hleft.session)
        fun _ hover => hstage.setDefault name value hover hleft.session

end couples

end Execution

/-- On a stage, the tests and the assignments of rules of which `admits` holds of the expressions
come to the same for two engines in runs that are related, and so do notes. -/
structure Stage.Parallels (engine engine' : Engine) (stage : Stage σ) (admits : Expression → Prop)
    (environments : Environment → Environment → Prop) (related : σ → σ → Prop) : Prop where
  /-- Template processing is tried as often. -/
  attempts : engine'.options.maxTemplateAttempts = engine.options.maxTemplateAttempts
  /-- The same is recorded in both environments. -/
  record : ∀ {environment environment'} notification, environments environment environment' →
    environments (environment.record notification) (environment'.record notification)
  /-- A test is true in both runs, or in neither. -/
  isTrue : ∀ {test source first second}, admits test → first.Related environments related second →
    Alike (Run.Related environments related) (Execution.isTrue engine stage source test)
      (Execution.isTrue engine' stage source test) first second
  /-- An assignment keeps the relation. -/
  assign : ∀ {target name expression first second}, admits expression →
    first.Related environments related second →
    Alike (Run.Related environments related) (Execution.assign engine stage target name expression)
      (Execution.assign engine' stage target name expression) first second

/-- Where expressions have the same values, tests and assignments come to the same. -/
theorem Stage.Couples.parallels {engine engine' : Engine} {stage : Stage σ}
    {admits : Expression → Prop} {environments : Environment → Environment → Prop}
    {related : σ → σ → Prop} (h : stage.Couples engine engine' admits environments related) :
    stage.Parallels engine engine' admits environments related where
  attempts := h.attempts
  record := h.record
  isTrue htest hruns := Execution.alike_isTrue h hruns htest _
  assign hexpression hruns := Execution.alike_assign h hruns hexpression _ _

namespace Stage.Parallels

open Execution Rule

variable {engine engine' : Engine} {stage : Stage σ} {admits : Expression → Prop}
  {environments : Environment → Environment → Prop} {related : σ → σ → Prop} {first second : Run σ}

theorem alike_constrain (hstage : stage.Parallels engine engine' admits environments related)
    (h : first.Related environments related second) {expression : Expression}
    (hexpression : admits expression) (mode : ConstraintMode) :
    Alike (Run.Related environments related) (constrain engine stage mode expression)
      (constrain engine' stage mode expression) first second := by
  refine (hstage.isTrue hexpression h).bind ?_
  intro truth left left' hleft
  split
  next => exact alike_pure hleft
  next =>
    cases mode with
    | enforce => exact alike_pure hleft
    | relax =>
      refine (alike_modify ⟨hleft.session, hleft.environment, rfl⟩).bind ?_
      intro _ relaxed relaxed' hrelaxed
      exact (alike_note hstage.record hrelaxed _ _ _).bind fun _ _ _ h => alike_pure h
    | ignore => exact (alike_note hstage.record hleft _ _ _).bind fun _ _ _ h => alike_pure h

-- The recursion follows the nesting of rules.
mutual

/-- A rule runs alike on related sessions. -/
theorem alike_run (hstage : stage.Parallels engine engine' admits environments related)
    (mode : ConstraintMode) :
    ∀ (rule : Rule) {first second : Run σ}, Admitted admits rule.walk →
      first.Related environments related second →
      Alike (Run.Related environments related) (rule.run engine stage mode)
        (rule.run engine' stage mode) first second
  | .assign target name expression, first, second, hrules, h => by
    have hexpression : admits expression :=
      hrules (.assign target name expression) (by simp [walk]) _ (List.mem_singleton.2 rfl)
    rw [run, run]
    exact (hstage.assign hexpression h).bind fun _ _ _ h => alike_pure h
  | .condition branches none, first, second, hrules, h => by
    rw [run, run]
    refine (alike_runBranches hstage mode branches ?_ ?_ h).bind fun _ _ _ h => ?_
    · exact fun branch hbranch =>
        hrules (.condition branches none) (by simp [walk]) _ (List.mem_map_of_mem hbranch)
    · exact fun nested hnested => hrules nested (by simp [walk, hnested])
    · exact alike_pure h
  | .condition branches (some otherwise), first, second, hrules, h => by
    rw [run, run]
    refine (alike_runBranches hstage mode branches ?_ ?_ h).bind fun flow _ _ h => ?_
    · exact fun branch hbranch =>
        hrules (.condition branches (some otherwise)) (by simp [walk]) _
          (List.mem_map_of_mem hbranch)
    · exact fun nested hnested => hrules nested (by simp [walk, hnested])
    · cases flow with
      | some flow => exact alike_pure h
      | none =>
        exact alike_runAll hstage mode otherwise
          (fun nested hnested => hrules nested (by simp [walk, hnested])) h
  | .exit scope, first, second, _, h => by
    rw [run, run]
    exact alike_pure h
  | .constraint expression, first, second, hrules, h => by
    have hexpression : admits expression :=
      hrules (.constraint expression) (by simp [walk]) _ (List.mem_singleton.2 rfl)
    rw [run, run]
    exact alike_constrain hstage h hexpression mode

/-- Rules in a list run alike on related sessions. -/
theorem alike_runAll (hstage : stage.Parallels engine engine' admits environments related)
    (mode : ConstraintMode) :
    ∀ (rules : List Rule) {first second : Run σ}, Admitted admits (walkAll rules) →
      first.Related environments related second →
      Alike (Run.Related environments related) (runAll engine stage mode rules)
        (runAll engine' stage mode rules) first second
  | [], _, _, _, h => by
    rw [runAll, runAll]
    exact alike_pure h
  | rule :: rest, first, second, hrules, h => by
    rw [runAll, runAll]
    refine (alike_run hstage mode rule (fun nested hnested => ?_) h).bind fun flow _ _ h => ?_
    · exact hrules nested (by simp [walkAll, hnested])
    · cases flow with
      -- Only after a rule that goes on to the next one do the rest run.
      | next =>
        exact alike_runAll hstage mode rest
          (fun nested hnested => hrules nested (by simp [walkAll, hnested])) h
      | exit scope => exact alike_pure h
      | constraintFailed => exact alike_pure h

/-- The branches of a condition run alike on related sessions. -/
theorem alike_runBranches
    (hstage : stage.Parallels engine engine' admits environments related)
    (mode : ConstraintMode) :
    ∀ (branches : List Branch) {first second : Run σ},
      (∀ branch ∈ branches, admits branch.test) → Admitted admits (walkBranches branches) →
      first.Related environments related second →
      Alike (Run.Related environments related) (runBranches engine stage mode branches)
        (runBranches engine' stage mode branches) first second
  | [], _, _, _, _, h => by
    rw [runBranches, runBranches]
    exact alike_pure h
  | .mk test rules :: rest, first, second, htests, hrules, h => by
    have htest : admits test := htests (.mk test rules) List.mem_cons_self
    rw [runBranches, runBranches]
    refine (hstage.isTrue htest h).bind fun truth _ _ h => ?_
    split
    next =>
      refine (alike_runAll hstage mode rules (fun nested hnested => ?_) h).bind
        fun _ _ _ h => alike_pure h
      exact hrules nested (by simp [walkBranches, hnested])
    next =>
      exact alike_runBranches hstage mode rest
        (fun branch hbranch => htests branch (List.mem_cons_of_mem _ hbranch))
        (fun nested hnested => hrules nested (by simp [walkBranches, hnested])) h

end

variable (hstage : stage.Parallels engine engine' admits environments related)
  {rules : List Rule}

include hstage

/-- Rules that are run once run alike on related sessions. -/
theorem alike_execute (hrules : Admitted admits (walkAll rules))
    (h : first.Related environments related second) :
    Alike (Run.Related environments related) (execute engine stage rules)
      (execute engine' stage rules) first second := by
  rw [execute, execute]
  exact (alike_runAll hstage .ignore rules hrules h).bind fun _ _ _ h => alike_pure h

theorem alike_templatePass (hrules : Admitted admits (walkAll rules)) (mode : ConstraintMode)
    (h : first.Related environments related second) :
    Alike (Run.Related environments related) (templatePass engine stage rules mode)
      (templatePass engine' stage rules mode) first second := by
  rw [templatePass, templatePass]
  exact alike_runAll hstage mode rules hrules ⟨h.session, h.environment, rfl⟩

/-- Template processing runs alike on related sessions through all its passes, if a new start
does. -/
theorem alike_templatePasses
    (hrestart : ∀ s t, related s t → Alike related stage.restart stage.restart s t)
    (hrules : Admitted admits (walkAll rules)) (further : Nat) :
    ∀ (passes : Nat) {first second : Run σ}, first.Related environments related second →
      Alike (Run.Related environments related) (templatePasses engine stage rules passes further)
        (templatePasses engine' stage rules passes further) first second := by
  -- The induction is on the passes that may still follow.
  induction further with
  | zero =>
    intro passes first second h
    rw [templatePasses, templatePasses]
    refine (alike_templatePass hstage hrules .relax h).bind fun flow left left' hleft => ?_
    simp only [alike_get_bind, hleft.relaxed]
    exact alike_pure hleft
  | succ further ih =>
    intro passes first second h
    rw [templatePasses, templatePasses]
    refine (alike_templatePass hstage hrules .enforce h).bind fun flow left left' hleft => ?_
    cases flow with
    | constraintFailed =>
      have hstart := hrestart left.session left'.session hleft.session
      have hrun :
          Alike (Run.Related environments related) (Rule.restart stage) (Rule.restart stage)
            left left' :=
        ⟨hstart.1, hstart.2, hleft.environment, hleft.relaxed⟩
      exact hrun.bind fun _ _ _ h => ih (passes + 1) h
    | next =>
      simp only [alike_get_bind, hleft.relaxed]
      exact alike_pure hleft
    | exit scope =>
      simp only [alike_get_bind, hleft.relaxed]
      exact alike_pure hleft

/-- Template processing runs alike on related sessions if a new start does. -/
theorem alike_executeTemplate
    (hrestart : ∀ s t, related s t → Alike related stage.restart stage.restart s t)
    (hrules : Admitted admits (walkAll rules)) (h : first.Related environments related second) :
    Alike (Run.Related environments related) (executeTemplate engine stage rules)
      (executeTemplate engine' stage rules) first second := by
  rw [executeTemplate, executeTemplate, hstage.attempts]
  exact alike_templatePasses hstage hrestart hrules _ 0 h

end Stage.Parallels

namespace Stage.Couples

variable {engine engine' : Engine} {stage : Stage σ} {admits : Expression → Prop}
  {environments : Environment → Environment → Prop} {related : σ → σ → Prop}
  (hstage : stage.Couples engine engine' admits environments related) {rules : List Rule}
  {first second : Run σ}

include hstage

/-- Rules that are run once run alike on sessions in which expressions have the same values. -/
theorem alike_execute (hrules : Rule.Admitted admits (Rule.walkAll rules))
    (h : first.Related environments related second) :
    Alike (Run.Related environments related) (Rule.execute engine stage rules)
      (Rule.execute engine' stage rules) first second :=
  hstage.parallels.alike_execute hrules h

/-- Template processing does so if a new start does. -/
theorem alike_executeTemplate
    (hrestart : ∀ s t, related s t → Alike related stage.restart stage.restart s t)
    (hrules : Rule.Admitted admits (Rule.walkAll rules))
    (h : first.Related environments related second) :
    Alike (Run.Related environments related) (Rule.executeTemplate engine stage rules)
      (Rule.executeTemplate engine' stage rules) first second :=
  hstage.parallels.alike_executeTemplate hrestart hrules h

end Stage.Couples

section Relates

variable {engine : Engine} {stage : Stage σ} {admits : Expression → Prop} {related : σ → σ → Prop}
  {rules : List Rule} {first second : Run σ}

/-- Rules that are run once run alike on sessions that look alike. -/
theorem Stage.Relates.alike_execute (hstage : stage.Relates engine admits related)
    (hrules : Rule.Admitted admits (Rule.walkAll rules)) (h : first.Related Eq related second) :
    Alike (Run.Related Eq related) (Rule.execute engine stage rules)
      (Rule.execute engine stage rules) first second :=
  hstage.couples.alike_execute hrules h

/-- Template processing runs alike on sessions that look alike if a new start does. -/
theorem Stage.Relates.alike_executeTemplate (hstage : stage.Relates engine admits related)
    (hrestart : ∀ s t, related s t → Alike related stage.restart stage.restart s t)
    (hrules : Rule.Admitted admits (Rule.walkAll rules)) (h : first.Related Eq related second) :
    Alike (Run.Related Eq related) (Rule.executeTemplate engine stage rules)
      (Rule.executeTemplate engine stage rules) first second :=
  hstage.couples.alike_executeTemplate hrestart hrules h

end Relates

/-- Runs of rules that are alike are alike as actions on the sessions that they are made on. -/
theorem Execution.alike_on {execution : Execution σ α} {environment : Environment}
    {related : σ → σ → Prop} {s t : σ}
    (h : Alike (Run.Related Eq related) execution execution ⟨s, environment, false⟩
      ⟨t, environment, false⟩) :
    Alike related (execution.on environment) (execution.on environment) s t := by
  obtain ⟨hresult, hleft⟩ := h
  simp only [Execution.on, alike_get_bind]
  rcases hfirst : execution.run.run ⟨s, environment, false⟩ with ⟨result, run⟩
  rcases hsecond : execution.run.run ⟨t, environment, false⟩ with ⟨result', run'⟩
  rw [hfirst, hsecond] at hresult hleft
  cases hresult
  cases result with
  | ok a =>
    refine ⟨?_, hleft.session⟩
    change (Except.ok (a, run.environment.log) : Except LogicError _) =
      .ok (a, run'.environment.log)
    rw [hleft.environment]
  | error error => exact ⟨rfl, hleft.session⟩

/-- Runs of rules that agree are coupled as actions on the sessions that they are made on: what they
report is related as their environments are. -/
theorem Execution.coupled_on {execution execution' : Execution σ α}
    {environment environment' : Environment} {environments : Environment → Environment → Prop}
    {logs : NotificationLog → NotificationLog → Prop} {related : σ → σ → Prop} {s t : σ}
    (hlogs : ∀ {environment environment'}, environments environment environment' →
      logs environment.log environment'.log)
    (h : Alike (Run.Related environments related) execution execution' ⟨s, environment, false⟩
      ⟨t, environment', false⟩) :
    Coupled related (fun a b => a.1 = b.1 ∧ logs a.2 b.2) Eq (execution.on environment)
      (execution'.on environment') s t := by
  obtain ⟨hresult, hleft⟩ := h
  simp only [Execution.on, coupled_get_bind]
  rcases hfirst : execution.run.run ⟨s, environment, false⟩ with ⟨result, run⟩
  rcases hsecond : execution'.run.run ⟨t, environment', false⟩ with ⟨result', run'⟩
  rw [hfirst, hsecond] at hresult hleft
  cases hresult
  cases result with
  | ok a => exact ⟨⟨rfl, hlogs hleft.environment⟩, hleft.session⟩
  | error error => exact ⟨rfl, hleft.session⟩

/-! ### Properties of single sessions -/

/-- On a stage, assignments keep the property `keeps` of sessions. -/
structure Stage.Maintains (stage : Stage σ) (keeps : σ → Prop) : Prop where
  /-- Assigning a value keeps the property. -/
  assign : ∀ {s t} name value, keeps s → stage.assign name value s = .ok t → keeps t
  /-- Changing a correct answer keeps the property. -/
  setCorrect : ∀ {s t overrides} name value, stage.overrides = some overrides → keeps s →
    overrides.setCorrect name value s = .ok t → keeps t
  /-- Changing a default keeps the property. -/
  setDefault : ∀ {s t overrides} name value, stage.overrides = some overrides → keeps s →
    overrides.setDefault name value s = .ok t → keeps t

/-- A property that assignments keep relates a session to itself. -/
theorem Stage.Maintains.relates {stage : Stage σ} {keeps : σ → Prop} (h : stage.Maintains keeps)
    (engine : Engine) :
    stage.Relates engine (fun _ => True) fun s t => s = t ∧ keeps s where
  evaluate := by
    rintro expression s _ - ⟨rfl, -⟩
    rfl
  declaration? := by
    rintro s _ name ⟨rfl, -⟩
    rfl
  assign := by
    rintro s _ name value ⟨rfl, hs⟩
    exact matches_self fun _ hresult => ⟨rfl, h.assign name value hs hresult⟩
  setCorrect := by
    rintro s _ overrides name value hover ⟨rfl, hs⟩
    exact matches_self fun _ hresult => ⟨rfl, h.setCorrect name value hover hs hresult⟩
  setDefault := by
    rintro s _ overrides name value hover ⟨rfl, hs⟩
    exact matches_self fun _ hresult => ⟨rfl, h.setDefault name value hover hs hresult⟩

namespace Rule

variable {engine : Engine} {stage : Stage σ} {keeps : σ → Prop} {session : σ}

/-- What assignments keep of a session is left by rules that are run once, however the run ends. -/
theorem leaves_execute (h : stage.Maintains keeps) (rules : List Rule) (environment : Environment)
    (hsession : keeps session) :
    ((execute engine stage rules).on environment).Leaves session keeps := by
  refine (Execution.alike_on ?_).leaves
  exact (h.relates engine).alike_execute (fun _ _ _ _ => trivial) ⟨⟨rfl, hsession⟩, rfl, rfl⟩

/-- What assignments and a new start keep of a session is left by template processing, however it
ends. -/
theorem leaves_executeTemplate (h : stage.Maintains keeps)
    (hrestart : ∀ session, keeps session → stage.restart.Leaves session keeps) (rules : List Rule)
    (environment : Environment) (hsession : keeps session) :
    ((executeTemplate engine stage rules).on environment).Leaves session keeps := by
  refine (Execution.alike_on ?_).leaves
  refine (h.relates engine).alike_executeTemplate ?_ (fun _ _ _ _ => trivial)
    ⟨⟨rfl, hsession⟩, rfl, rfl⟩
  rintro s _ ⟨rfl, hs⟩
  exact (hrestart s hs).alike

end Rule

end Assessment
