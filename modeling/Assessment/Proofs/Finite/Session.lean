import Assessment.Proofs.Evaluation
import Assessment.Proofs.Finite.Definition
import Assessment.Proofs.Item.Retained
import Assessment.Proofs.Item.Typing
import Assessment.Proofs.Number.Draw

/-!
# Finite sessions

A session of a finite item begins with finite values, and only finite values get into it: candidates
send no others, the time that is counted is finite, and expressions over finite variables have
finite values, as long as scores and rounded numbers stay in the range of doubles. Extensions might
answer with anything, so there must be none.

## Main definitions

- `ItemState.IsFinite`: a session in which all values are finite.

## Main results

- `ItemState.nodesGive_isFinite`: the values of expressions are finite.
- `ItemDelivery.retains_isFinite`: the operations on item sessions keep them finite.
- `ItemDelivery.isFinite_of_create`: new sessions are finite.
-/

namespace Assessment

open Action Evaluation

namespace ItemState

/-- All values of a session are finite, and so are all that stand in place of what is declared. -/
structure IsFinite (state : ItemState) : Prop where
  /-- The values of the variables are finite. -/
  stores : ∀ role, (state.store role).IsFinite
  /-- The values are finite that template variables start with. -/
  templateDefaults : state.templateDefaults.IsFinite
  /-- Changed correct answers are finite. -/
  correctOverrides : state.correctOverrides.IsFinite
  /-- Changed defaults are finite. -/
  defaultOverrides : state.defaultOverrides.IsFinite

variable {state : ItemState} {definition : ItemDefinition} {role : Role} {name : Identifier}
  {value : Value}

/-- A variable of a finite session may be given another finite value. -/
theorem IsFinite.set (h : state.IsFinite) (hvalue : value.IsFinite) {store : Store}
    (hset : (state.store role).set name value = .ok store) :
    (state.setStore role store).IsFinite where
  stores other := by
    by_cases hrole : other = role
    · subst hrole
      rw [store_setStore_self]
      exact (h.stores other).set hvalue hset
    · rw [store_setStore_of_ne hrole]
      exact h.stores other
  templateDefaults := by
    rw [templateDefaults_setStore]
    exact h.templateDefaults
  correctOverrides := by
    rw [correctOverrides_setStore]
    exact h.correctOverrides
  defaultOverrides := by
    rw [defaultOverrides_setStore]
    exact h.defaultOverrides

/-- The time that was counted is finite. -/
theorem IsFinite.duration (h : state.IsFinite) : state.duration.isFinite = true := by
  unfold ItemState.duration
  cases hfound : state.responses.get? BuiltIn.duration.identifier >>= Value.seconds? with
  | none => rfl
  | some seconds =>
    obtain ⟨value, hvalue, hseconds⟩ := Option.bind_eq_some_iff.1 hfound
    have hfinite : value.IsFinite := (h.stores .response).get? hvalue
    cases value with
    | single scalar =>
      cases scalar <;> cases hseconds
      exact Value.isFinite_duration.1 hfinite
    | _ => cases hseconds

/-! ### What expressions see -/

/-- The variables of a finite session have finite values. -/
theorem IsFinite.yields_read (h : state.IsFinite) (name : Identifier) :
    Yields (state.read definition name) Value.IsFinite fun _ => True := by
  refine Yields.bind yields_true fun declaration _ => ?_
  unfold Store.value
  split
  next hvalue => exact (h.stores _).get? hvalue
  next => trivial

theorem IsFinite.yields_readDefault (h : state.IsFinite) (hdefinition : definition.IsFinite)
    (name : Identifier) :
    Yields (state.readDefault definition name) Value.IsFinite fun _ => True := by
  unfold readDefault declared
  split
  next declaration hname =>
    rw [yields_bind, yields_ok, yields_ok]
    have hdefault := hdefinition.defaults declaration
      (ItemDefinition.mem_allVariables_of_resolve? hname).1
    cases hover : state.defaultOverrides.get? name with
    | some value => exact h.defaultOverrides.get? hover
    | none =>
      cases hvalue : declaration.defaultValue with
      | some value => exact hdefault value hvalue
      | none => exact Value.isFinite_null
  next => trivial

theorem IsFinite.yields_readCorrect (h : state.IsFinite) (hdefinition : definition.IsFinite)
    (name : Identifier) :
    Yields (state.readCorrect definition name) Value.IsFinite fun _ => True := by
  refine Yields.bind yields_true fun declaration _ => ?_
  rw [yields_ok]
  cases hover : state.correctOverrides.get? name with
  | some value => exact h.correctOverrides.get? hover
  | none =>
    cases hwritten : definition.response? name >>= (·.correctResponse) with
    | none => exact Value.isFinite_null
    | some value =>
      obtain ⟨d, hd, hvalue⟩ := Option.bind_eq_some_iff.1 hwritten
      exact hdefinition.correct d (List.mem_of_find?_eq_some hd) value hvalue

/-! ### Expressions -/

/-- There are no items to aggregate over. -/
theorem gives_aggregated (operation : String) :
    Gives (fun _ => False) (fun _ => True) (fun _ => True)
      (aggregated (state.view definition) operation) :=
  fun _ _ => ⟨trivial, trivial⟩

section expressions

variable (hdefinition : definition.IsFinite) (hrange : definition.StaysInRange)
  (hstate : state.IsFinite)

include hdefinition hrange hstate

/-- An expression without operands has a finite value. -/
theorem gives_evaluateLeaf {node : Expression} (hnode : node.IsFinite) :
    Gives Value.IsFinite (fun _ => True) (fun _ => True)
      (evaluateLeaf (state.view definition) node) := by
  have hread : ∀ name, Gives Value.IsFinite (fun _ => True) (fun _ => True)
      (found ((state.view definition).value name)) :=
    fun name => gives_found (hstate.yields_read name)
  have hresponse : ∀ operation name, Gives (fun d => d ∈ definition.responses) (fun _ => True)
      (fun _ => True) (responseDeclaration (state.view definition) operation name) := by
    intro operation name
    unfold responseDeclaration
    split
    next d hname =>
      obtain ⟨hmem, -⟩ := ItemDefinition.mem_allVariables_of_resolve? hname
      exact gives_pure (ItemDefinition.mem_allVariables_response.1 hmem)
    next => exact gives_fault trivial
    next => exact gives_fault trivial
  cases node with
  | baseValue scalar => exact gives_pure (Value.isFinite_single.2 hnode)
  | null | apply _ _ | custom _ _ => exact gives_pure Value.isFinite_null
  | valueOf name weight =>
    refine (hread name).bind fun value hvalue => gives_pure ?_
    -- Variables of an item have no weights.
    have hweight : (weight >>= (state.view definition).weight? name) = none := by
      cases weight <;> rfl
    rw [hweight]
    cases value <;> exact hvalue
  | defaultOf name => exact gives_found (hstate.yields_readDefault hdefinition name)
  | correctOf name => exact gives_found (hstate.yields_readCorrect hdefinition name)
  | mapResponse name =>
    refine (hresponse _ name).bind fun d hd => ?_
    cases hmapping : d.mapping with
    | none => exact gives_fault trivial
    | some mapping =>
      refine (hread name).bind fun value hvalue => gives_pure (Value.isFinite_float.2 ?_)
      exact hrange.mappings d hd mapping hmapping value hvalue
  | mapResponsePoint name =>
    refine (hresponse _ name).bind fun d hd => ?_
    cases hmapping : d.areaMapping with
    | none => exact gives_fault trivial
    | some mapping =>
      dsimp only
      split
      next => exact gives_fault trivial
      next =>
        refine (hread name).bind fun value hvalue => gives_pure (Value.isFinite_float.2 ?_)
        exact hrange.areaMappings d hd mapping hmapping value hvalue
  | mathConstant constant =>
    refine gives_pure (Value.isFinite_float.2 ?_)
    cases constant <;> rfl
  | randomInteger least greatest step =>
    refine gives_drawn (fun _ _ _ => trivial) fun source => ?_
    exact Yields.bind yields_true fun _ _ => Value.isFinite_integer _
  | randomFloat least greatest =>
    refine gives_drawn (fun _ _ _ => trivial) fun source =>
      yields_iff.2 ⟨fun answer hanswer => ?_, fun _ _ => trivial⟩
    obtain ⟨value, rest⟩ := answer
    obtain ⟨x, rfl, hx⟩ := isFinite_of_drawFloat hanswer
    exact Value.isFinite_float.2 hx
  | countItems _ _ | testVariables _ _ _ _ | outcomeBounds _ _ _ _ =>
    exact (gives_aggregated _).bind fun _ hitems => hitems.elim

variable {engine : Engine} (hregistry : engine.registry = .empty)

include hregistry

/-- Without extensions the nodes of expressions have finite values, if their literals are finite and
they do not round to anything else. -/
theorem nodesGive_isFinite : Expression.NodesGive engine (state.view definition)
    (fun node => node.IsFinite ∧ node.RoundsFinitely) Value.IsFinite (fun _ => True)
    fun _ => True where
  leaf hnode := gives_evaluateLeaf hdefinition hrange hstate hnode.1
  arity _ _ := trivial
  builtIn hnode hvalues := gives_drawn (fun _ _ _ => trivial) fun source =>
    Operator.yields_apply hnode.2 hvalues _ source
  truth := isFinite_ofTriState
  connective _ := trivial
  extension hoperator _ := by
    rw [hregistry] at hoperator
    cases hoperator
  unsupported _ _ _ := trivial

end expressions

/-! ### Rules -/

/-- Setting variables to finite values keeps a session finite. -/
theorem IsFinite.leaves_setAll {bindings : List (Identifier × Value)} (h : state.IsFinite)
    (hbindings : ∀ binding ∈ bindings, binding.2.IsFinite) :
    (setAll role bindings).Leaves state IsFinite := by
  induction bindings generalizing state with
  | nil => exact h
  | cons binding rest ih =>
    obtain ⟨hfirst, hrest⟩ := List.forall_mem_cons.1 hbindings
    rw [setAll, Leaves, ensures_bind, ensures_get]
    cases hset : (state.store role).set binding.1 binding.2 with
    | error error => exact h
    | ok store => exact ih (h.set hfirst hset) hrest

/-- Template variables are put back to finite values. -/
theorem IsFinite.leaves_restartTemplates (h : state.IsFinite) (hdefinition : definition.IsFinite) :
    (restartTemplates definition).Leaves state IsFinite := by
  rw [restartTemplates, Leaves, ensures_bind, ensures_get]
  refine h.leaves_setAll fun binding hbinding => ?_
  obtain ⟨d, hd, rfl⟩ := List.mem_map.1 hbinding
  have hinitial := hdefinition.initial (ItemDefinition.mem_allVariables_template.2 hd)
  exact h.templateDefaults.getD hinitial

variable {engine : Engine}

/-- Rules assign finite values, and what they assign keeps a session finite. -/
theorem stage_stores_isFinite (hdefinition : definition.IsFinite)
    (hrange : definition.StaysInRange) (hregistry : engine.registry = .empty) :
    (stage definition).Stores engine
      (fun expression => ∀ node ∈ expression.walk, node.IsFinite ∧ node.RoundsFinitely)
      Value.IsFinite IsFinite where
  evaluate environment hnodes hstate :=
    ((nodesGive_isFinite hdefinition hrange hstate hregistry).gives_tryEvaluate _ hnodes
      environment trivial).mono (fun _ _ hvalue => hvalue.1) fun _ _ _ => trivial
  prepare hgiven hname hvalue := hdefinition.isFinite_of_prepareFor hname hgiven hvalue
  assign hvalue hsession hassign := by
    obtain ⟨_, _, -, hset, rfl⟩ := exists_of_assign hassign
    exact hsession.set hvalue hset
  setCorrect hvalue hover hsession hcorrect := by
    cases hover
    obtain rfl := eq_of_setCorrect hcorrect
    exact ⟨hsession.stores, hsession.templateDefaults, hsession.correctOverrides.insert hvalue,
      hsession.defaultOverrides⟩
  setDefault hvalue hover hsession hdefault := by
    cases hover
    obtain rfl := eq_of_setDefault hdefault
    exact ⟨hsession.stores, hsession.templateDefaults, hsession.correctOverrides,
      hsession.defaultOverrides.insert hvalue⟩

end ItemState

/-! ### Operations -/

namespace ItemDelivery

variable {item : ItemDelivery} {state : ItemState}

/-- Without extensions responses are only bound to finite values. -/
theorem yields_bindOne_isFinite (hregistry : item.engine.registry = .empty)
    (declaration : ResponseDeclaration) (data : ResponseData) :
    Yields (item.bindOne declaration data) Value.IsFinite fun _ => True := by
  have hcheck : ∀ value : Value, value.IsFinite →
      Yields (if value.conforms declaration.signature = true then .ok value
        else .error (.misfit declaration.signature) : Except ResponseProblem Value)
        Value.IsFinite fun _ => True := by
    intro value hvalue
    split
    next => exact hvalue
    next => trivial
  unfold bindOne
  dsimp only
  split
  next =>
    -- A class of interactions would have to come from an extension.
    rw [hregistry]
    trivial
  next =>
    split
    next value hvalue =>
      refine hcheck value ?_
      have hfinite := Value.yields_ofResponse declaration.signature data
      rw [hvalue] at hfinite
      exact hfinite
    next => trivial

variable (hdefinition : item.definition.IsFinite) (hrange : item.definition.StaysInRange)
  (hregistry : item.engine.registry = .empty)

include hdefinition hrange hregistry

/-- All operations on sessions of a finite item without extensions keep them finite, if scores and
rounded numbers stay in the range of doubles. -/
theorem retains_isFinite : item.Retains ItemState.IsFinite where
  frame hbefore hsame := by
    refine ⟨fun role => ?_, ?_, ?_, ?_⟩
    · rw [hsame.store]
      exact hbefore.stores role
    · rw [hsame.templateDefaults]
      exact hbefore.templateDefaults
    · rw [hsame.correctOverrides]
      exact hbefore.correctOverrides
    · rw [hsame.defaultOverrides]
      exact hbefore.defaultOverrides
  duration hstate helapsed := by
    refine hstate.leaves_setAll (List.forall_mem_singleton.2 (Value.isFinite_duration.2 ?_))
    exact Double.isFinite_add_secondsSince hstate.duration helapsed
  attempts attempts hstate :=
    hstate.leaves_setAll (List.forall_mem_singleton.2 (Value.isFinite_integer attempts))
  completion completion hstate :=
    hstate.leaves_setAll (List.forall_mem_singleton.2 (Value.isFinite_identifier _))
  bind hstate hbound := by
    refine hstate.leaves_setAll fun binding hbinding => ?_
    obtain ⟨d, data, -, hvalue⟩ := exists_response_of_bindResponses hbound hbinding
    have hfinite := yields_bindOne_isFinite hregistry d data
    rw [hvalue] at hfinite
    exact hfinite
  templates hstate := hstate.leaves_restartTemplates hdefinition
  responses hstate := by
    refine hstate.leaves_setAll fun binding hbinding => ?_
    obtain ⟨d, hd, rfl⟩ := List.mem_map.1 hbinding
    exact hstate.defaultOverrides.getD
      (hdefinition.initial (ItemDefinition.mem_allVariables_response.2 hd))
  outcomes hstate := by
    refine hstate.leaves_setAll fun binding hbinding => ?_
    obtain ⟨d, hd, rfl⟩ := List.mem_map.1 hbinding
    exact hstate.defaultOverrides.getD
      (hdefinition.initial (ItemDefinition.mem_allVariables_outcome.2 hd))
  template environment hstate :=
    (ItemState.stage_stores_isFinite hdefinition hrange hregistry).ensures_executeTemplate
      (fun _ hsession => hsession.leaves_restartTemplates hdefinition)
      (fun rule hrule expression hexpression node hnode =>
        ⟨hdefinition.templateProcessing rule hrule expression hexpression node hnode,
          hrange.templateProcessing rule hrule expression hexpression node hnode⟩)
      environment hstate
  response environment hstate :=
    (ItemState.stage_stores_isFinite hdefinition hrange hregistry).ensures_execute
      (fun rule hrule expression hexpression node hnode =>
        ⟨hdefinition.responseProcessing rule hrule expression hexpression node hnode,
          hrange.responseProcessing rule hrule expression hexpression node hnode⟩)
      environment hstate

omit hrange hregistry in
/-- A new session is finite if its template variables start with finite values. -/
theorem isFinite_of_create {templateDefaults : Store} (hdefaults : templateDefaults.IsFinite)
    {seed : UInt64} (h : item.create templateDefaults seed = .ok state) : state.IsFinite := by
  unfold create at h
  dsimp only at h
  split at h
  next => cases h
  next =>
    have hinitial : ∀ role, Store.IsFinite
        (Store.ofVariables (item.definition.initialBindings role)) := by
      intro role
      refine Store.isFinite_ofVariables fun binding hbinding => ?_
      obtain ⟨d, hd, rfl⟩ := ItemDefinition.exists_of_mem_initialBindings hbinding
      exact hdefinition.initial hd
    have hset : ∀ entry ∈ templateDefaults.toList, ∀ store : Store, store.IsFinite →
        Yields (store.set entry.1 entry.2) Store.IsFinite fun _ => True :=
      fun entry hentry store hstore => yields_iff.2
        ⟨fun changed hchanged => hstore.set (hdefaults entry hentry) hchanged, fun _ _ => trivial⟩
    have htemplates := putDefaults_keeps hset (hinitial .template)
    split at h
    next templates hput =>
      rw [show putDefaults (Store.ofVariables (item.definition.initialBindings .template)) _ = _
        from hput] at htemplates
      cases h
      refine ⟨fun role => ?_, hdefaults, Store.isFinite_empty, Store.isFinite_empty⟩
      cases role with
      | template => exact htemplates
      | response =>
        have hresponses := hinitial .response
        rw [ItemDefinition.initialBindings, Store.ofVariables, SortedMap.ofList,
          List.foldl_append] at hresponses
        exact hresponses
      | outcome =>
        have houtcomes := hinitial .outcome
        rw [ItemDefinition.initialBindings, Store.ofVariables, SortedMap.ofList,
          List.foldl_append] at houtcomes
        exact houtcomes
    next => cases h

end ItemDelivery

end Assessment
