import Mathlib.Data.List.Nodup
import Assessment.Proofs.Evaluation
import Assessment.Proofs.Item.Upkeep
import Assessment.Validation.Basic

/-!
# Item sessions that lack nothing

An item has the variables that it declares and three that are built in. A name means one of them:
all look-ups of names, those of sessions and those of validation, go through this list.

A session of an item has a value for every variable of the item, from the beginning on. Operations
only change values, so none of them ever misses a variable: as long as the rules of the item make
sense outside of tests, no operation on such a session fails with a logic error.

## Main definitions

- `ItemDefinition.allVariables`: the built-in and the declared variables.
- `ItemDefinition.variableNames`: the names of the variables of a role.
- `ItemDefinition.WellNamed`: no two variables have one name.
- `ItemDefinition.StandsAlone`: the rules of an item make sense outside of tests.
- `ItemDelivery.Stocked`: a session of the item that has a value for every variable.

## Main results

- `ItemDefinition.mem_resolveAll`: what a name may mean.
- `ItemDefinition.WellNamed.eq_of_identifier`: of variables with different names there is one of
  each name.
- `ItemDelivery.stocked_of_create`: a new session is stocked.
- `ItemDelivery.Stocked.reads`: every variable of a stocked session can be read.
- `ItemDelivery.upholds_stocked` and `ItemDelivery.processes_stocked`: all operations on item
  sessions keep them stocked.
-/

namespace Assessment

/-- A built-in variable is found by its name. -/
theorem BuiltIn.ofName?_eq_some_iff {name : String} {builtIn : BuiltIn} :
    BuiltIn.ofName? name = some builtIn ↔ builtIn.identifier.text = name := by
  constructor
  · intro h
    have hname := List.find?_some h
    exact of_decide_eq_true hname
  · rintro rfl
    cases builtIn <;> decide +kernel

namespace ItemDefinition

variable {definition : ItemDefinition} {name : Identifier} {declaration : Declaration}

/-- The variables of an item, those that are built in before those that are declared. -/
def allVariables (definition : ItemDefinition) : List Declaration :=
  BuiltIn.all.map .builtIn ++ definition.declarations

/-- The names of the variables of a role, those that are built in behind those that are declared. -/
def variableNames (definition : ItemDefinition) : Role → List Identifier
  | .template => definition.templates.map (·.identifier)
  | .response =>
    definition.responses.map (·.identifier) ++
      [BuiltIn.numAttempts.identifier, BuiltIn.duration.identifier]
  | .outcome =>
    definition.outcomes.map (·.identifier) ++ [BuiltIn.completionStatus.identifier]

/-! ### What a list of variables holds -/

theorem mem_allVariables_builtIn (builtIn : BuiltIn) :
    .builtIn builtIn ∈ definition.allVariables := by
  cases builtIn <;> simp [allVariables, BuiltIn.all]

theorem mem_allVariables_template {d : TemplateDeclaration} :
    .template d ∈ definition.allVariables ↔ d ∈ definition.templates := by
  simp [allVariables, declarations]

theorem mem_allVariables_response {d : ResponseDeclaration} :
    .response d ∈ definition.allVariables ↔ d ∈ definition.responses := by
  simp [allVariables, declarations]

theorem mem_allVariables_outcome {d : OutcomeDeclaration} :
    .outcome d ∈ definition.allVariables ↔ d ∈ definition.outcomes := by
  simp [allVariables, declarations]

/-- The names of a role are those of the variables that have it. -/
theorem mem_variableNames {role : Role} :
    name ∈ definition.variableNames role ↔
      ∃ declaration ∈ definition.allVariables, declaration.role = role ∧
        declaration.identifier = name := by
  constructor
  · intro h
    cases role with
    | template =>
      obtain ⟨d, hd, rfl⟩ := List.mem_map.1 h
      exact ⟨.template d, mem_allVariables_template.2 hd, rfl, rfl⟩
    | response =>
      obtain h | h := List.mem_append.1 h
      · obtain ⟨d, hd, rfl⟩ := List.mem_map.1 h
        exact ⟨.response d, mem_allVariables_response.2 hd, rfl, rfl⟩
      · obtain rfl | h := List.mem_cons.1 h
        · exact ⟨.builtIn .numAttempts, mem_allVariables_builtIn _, rfl, rfl⟩
        · exact ⟨.builtIn .duration, mem_allVariables_builtIn _, rfl, (List.mem_singleton.1 h).symm⟩
    | outcome =>
      obtain h | h := List.mem_append.1 h
      · obtain ⟨d, hd, rfl⟩ := List.mem_map.1 h
        exact ⟨.outcome d, mem_allVariables_outcome.2 hd, rfl, rfl⟩
      · exact ⟨.builtIn .completionStatus, mem_allVariables_builtIn _, rfl,
          (List.mem_singleton.1 h).symm⟩
  · rintro ⟨declaration, h, rfl, rfl⟩
    cases declaration with
    | template d => exact List.mem_map_of_mem (mem_allVariables_template.1 h)
    | response d =>
      exact List.mem_append_left _ (List.mem_map_of_mem (mem_allVariables_response.1 h))
    | outcome d =>
      exact List.mem_append_left _ (List.mem_map_of_mem (mem_allVariables_outcome.1 h))
    | builtIn builtIn =>
      cases builtIn <;> simp [variableNames, Declaration.role, Declaration.identifier, BuiltIn.role]

theorem mem_variableNames_builtIn (builtIn : BuiltIn) :
    builtIn.identifier ∈ definition.variableNames builtIn.role :=
  mem_variableNames.2 ⟨.builtIn builtIn, mem_allVariables_builtIn builtIn, rfl, rfl⟩

/-! ### What names mean -/

/-- A name may mean the variables that have it. -/
theorem mem_resolveAll {text : String} :
    declaration ∈ definition.resolveAll text ↔
      declaration ∈ definition.allVariables ∧ declaration.identifier.text = text := by
  have hbuiltIn : ∀ builtIn, BuiltIn.ofName? text = some builtIn ↔
      builtIn.identifier.text = text := fun _ => BuiltIn.ofName?_eq_some_iff
  cases declaration with
  | template d => simp [resolveAll, mem_allVariables_template, Declaration.identifier]
  | response d => simp [resolveAll, mem_allVariables_response, Declaration.identifier]
  | outcome d => simp [resolveAll, mem_allVariables_outcome, Declaration.identifier]
  | builtIn builtIn =>
    simp [resolveAll, mem_allVariables_builtIn, Declaration.identifier, hbuiltIn]

/-- What a name means is a variable of that name. -/
theorem mem_allVariables_of_resolve? (h : definition.resolve? name.text = some declaration) :
    declaration ∈ definition.allVariables ∧ declaration.identifier = name := by
  obtain ⟨hmem, hname⟩ := mem_resolveAll.1 (List.mem_of_mem_head? h)
  exact ⟨hmem, Identifier.text_inj.1 hname⟩

/-- A name that leads to a variable is the name of a variable of that role. -/
theorem mem_variableNames_of_resolve? (h : definition.resolve? name.text = some declaration) :
    name ∈ definition.variableNames declaration.role := by
  obtain ⟨hmem, hname⟩ := mem_allVariables_of_resolve? h
  exact mem_variableNames.2 ⟨declaration, hmem, rfl, hname⟩

/-- A response of a name is a variable of that name. -/
theorem mem_allVariables_of_response? {d : ResponseDeclaration}
    (h : definition.response? name = some d) :
    .response d ∈ definition.allVariables ∧ d.identifier = name := by
  have hname := List.find?_some h
  exact ⟨mem_allVariables_response.2 (List.mem_of_find?_eq_some h), of_decide_eq_true hname⟩

/-- A template variable of a name is a variable of that name. -/
theorem mem_allVariables_of_template? {d : TemplateDeclaration}
    (h : definition.template? name = some d) :
    .template d ∈ definition.allVariables ∧ d.identifier = name := by
  have hname := List.find?_some h
  exact ⟨mem_allVariables_template.2 (List.mem_of_find?_eq_some h), of_decide_eq_true hname⟩

theorem mem_variableNames_of_response? {d : ResponseDeclaration}
    (h : definition.response? name = some d) : name ∈ definition.variableNames .response := by
  obtain ⟨hmem, hname⟩ := mem_allVariables_of_response? h
  exact mem_variableNames.2 ⟨.response d, hmem, rfl, hname⟩

/-- No two variables of an item have one name. -/
def WellNamed (definition : ItemDefinition) : Prop :=
  (definition.allVariables.map (·.identifier)).Nodup

/-- Of variables with different names there is one of each name. -/
theorem WellNamed.eq_of_identifier (h : definition.WellNamed) {other : Declaration}
    (hdeclaration : declaration ∈ definition.allVariables)
    (hother : other ∈ definition.allVariables)
    (hname : declaration.identifier = other.identifier) : declaration = other :=
  List.inj_on_of_nodup_map h hdeclaration hother hname

/-- The name of a variable leads to it. -/
theorem WellNamed.resolve?_eq (h : definition.WellNamed)
    (hdeclaration : declaration ∈ definition.allVariables) :
    definition.resolve? declaration.identifier.text = some declaration := by
  cases hresolve : definition.resolve? declaration.identifier.text with
  | none =>
    have hnothing := List.head?_eq_none_iff.1 hresolve
    have hmem := mem_resolveAll.2 ⟨hdeclaration, rfl⟩
    rw [hnothing] at hmem
    cases hmem
  | some found =>
    obtain ⟨hfound, hname⟩ := mem_allVariables_of_resolve? hresolve
    rw [h.eq_of_identifier hfound hdeclaration hname]

end ItemDefinition

open Action

/-! ### Rules -/

namespace ItemDefinition

variable {definition : ItemDefinition} {name : Identifier}

/-- A value is only prepared as the correct answer of a variable that is declared as a response. -/
theorem exists_response_of_prepareFor {declaration : Declaration} {given value : Value}
    (h : definition.resolve? name.text = some declaration)
    (hvalue : prepareFor .correctResponse name declaration given = .ok value) :
    ∃ response, definition.response? name = some response := by
  obtain ⟨hmem, hname⟩ := mem_allVariables_of_resolve? h
  unfold prepareFor at hvalue
  split at hvalue
  next => cases hvalue
  next hmaintained =>
    split at hvalue
    next => cases hvalue
    next hrole =>
      -- Of the kinds of variables only declared responses pass both tests of their role.
      cases declaration with
      | response found =>
        refine Option.isSome_iff_exists.1 (List.find?_isSome.2
          ⟨found, mem_allVariables_response.1 hmem, ?_⟩)
        exact decide_eq_true hname
      | template _ => exact absurd rfl hrole
      | outcome _ => exact absurd rfl hrole
      | builtIn builtIn =>
        cases builtIn <;> first | exact absurd rfl hmaintained | exact absurd rfl hrole

/-- The rules of an item make sense outside of tests. -/
structure StandsAlone (definition : ItemDefinition) : Prop where
  /-- Those of template processing do. -/
  templateProcessing : Rule.Admitted (fun expression => ∀ node ∈ expression.walk,
    node.isTestOnly = false) (Rule.walkAll definition.templateProcessing)
  /-- Those of response processing do. -/
  responseProcessing : Rule.Admitted (fun expression => ∀ node ∈ expression.walk,
    node.isTestOnly = false) (Rule.walkAll definition.responseProcessing)

end ItemDefinition

/-! ### Stocked sessions -/

namespace ItemState

variable {state : ItemState} {role other : Role} {store : Store}

theorem store_setStore_self (state : ItemState) (role : Role) (store : Store) :
    (state.setStore role store).store role = store := by
  cases role <;> rfl

theorem store_setStore_of_ne (h : other ≠ role) :
    (state.setStore role store).store other = state.store other := by
  cases role <;> cases other <;> first | rfl | exact absurd rfl h

theorem digest_setStore (state : ItemState) (role : Role) (store : Store) :
    (state.setStore role store).digest = state.digest := by
  cases role <;> rfl

theorem templateDefaults_setStore (state : ItemState) (role : Role) (store : Store) :
    (state.setStore role store).templateDefaults = state.templateDefaults := by
  cases role <;> rfl

theorem correctOverrides_setStore (state : ItemState) (role : Role) (store : Store) :
    (state.setStore role store).correctOverrides = state.correctOverrides := by
  cases role <;> rfl

theorem defaultOverrides_setStore (state : ItemState) (role : Role) (store : Store) :
    (state.setStore role store).defaultOverrides = state.defaultOverrides := by
  cases role <;> rfl

/-- A variable that is declared can be read if there is a value for all of them. -/
theorem failsUndeclared_read {definition : ItemDefinition} {session : ItemState}
    (h : ∀ role, ∀ name ∈ definition.variableNames role,
      (session.store role).contains name = true) (name : Identifier) :
    FailsUndeclared (session.read definition name) := by
  rw [FailsUndeclared, read, declared]
  cases hname : definition.resolve? name.text with
  | none => exact ⟨name, rfl⟩
  | some declaration =>
    have hvalue := h _ name (ItemDefinition.mem_variableNames_of_resolve? hname)
    obtain ⟨value, hvalue⟩ := Option.isSome_iff_exists.1 hvalue
    rw [yields_bind, yields_ok, Store.value, hvalue]
    trivial

end ItemState

namespace ItemDelivery

variable {α β : Type} {item : ItemDelivery} {session : ItemState}

/-- Responses are only bound to variables that are declared as responses, with the value that their
data give them. -/
theorem exists_response_of_bindResponses {responses : SortedMap Identifier ResponseData}
    {validate : Bool} {bound : List (Identifier × Value)} {binding : Identifier × Value}
    (h : item.bindResponses responses validate = .ok bound) (hbinding : binding ∈ bound) :
    ∃ declaration data, item.definition.response? binding.1 = some declaration ∧
      item.bindOne declaration data = .ok binding.2 := by
  unfold bindResponses at h
  dsimp only at h
  split at h
  next =>
    cases h
    obtain ⟨_, hresult, hbound⟩ := List.mem_filterMap.1 hbinding
    obtain ⟨⟨name, data⟩, -, rfl⟩ := List.mem_map.1 hresult
    dsimp only at hbound
    cases hvalue : item.bindNamed name data with
    | error problem =>
      rw [hvalue] at hbound
      cases hbound
    | ok value =>
      rw [hvalue] at hbound
      cases hbound
      unfold bindNamed at hvalue
      split at hvalue
      next declaration hname => exact ⟨declaration, data, hname, hvalue⟩
      next => cases hvalue
  next => cases h

/-- A session of the item that has a value for every variable of the item. -/
structure Stocked (item : ItemDelivery) (session : ItemState) : Prop where
  /-- It is a session of the item. -/
  digest : session.digest = item.digest
  /-- It has a value for every variable. -/
  stores : ∀ role, ∀ name ∈ item.definition.variableNames role,
    (session.store role).contains name = true

/-- A new session has a value for every variable. -/
theorem stocked_of_create {seed : UInt64} (h : item.create .empty seed = .ok session) :
    item.Stocked session := by
  obtain rfl := Except.ok.inj h
  refine ⟨rfl, fun role name hname => ?_⟩
  cases role with
  | template =>
    change SortedMap.contains (SortedMap.ofList _) _ = true
    rw [SortedMap.contains_ofList, List.map_map]
    exact hname
  | response =>
    change SortedMap.contains (SortedMap.insert (SortedMap.insert (SortedMap.ofList _) _ _) _ _) _ =
      true
    rw [SortedMap.contains_insert, SortedMap.contains_insert, SortedMap.contains_ofList,
      List.map_map]
    obtain hname | hname := List.mem_append.1 hname
    · exact .inr (.inr hname)
    · obtain rfl | hname := List.mem_cons.1 hname
      · exact .inr (.inl rfl)
      · exact .inl (List.mem_singleton.1 hname)
  | outcome =>
    change SortedMap.contains (SortedMap.insert (SortedMap.ofList _) _ _) _ = true
    rw [SortedMap.contains_insert, SortedMap.contains_ofList, List.map_map]
    obtain hname | hname := List.mem_append.1 hname
    · exact .inr hname
    · exact .inl (List.mem_singleton.1 hname)

section stocked

variable (h : item.Stocked session)

include h

/-- A value may be put in for a variable. -/
theorem Stocked.set {role : Role} {name : Identifier}
    (hname : name ∈ item.definition.variableNames role) (value : Value) :
    ∃ store, (session.store role).set name value = .ok store ∧
      item.Stocked (session.setStore role store) := by
  refine ⟨_, Store.set_eq_ok_iff.2 ⟨h.stores role name hname, rfl⟩, ?_, ?_⟩
  · rw [ItemState.digest_setStore]
    exact h.digest
  · intro other found hfound
    by_cases hrole : other = role
    · subst hrole
      rw [ItemState.store_setStore_self, SortedMap.contains_insert]
      exact .inr (h.stores other found hfound)
    · rw [ItemState.store_setStore_of_ne hrole]
      exact h.stores other found hfound

/-- Values may be put in for several variables. -/
theorem Stocked.ensures_setAll {role : Role} {bindings : List (Identifier × Value)}
    (hnames : ∀ binding ∈ bindings, binding.1 ∈ item.definition.variableNames role) :
    (ItemState.setAll role bindings).Ensures session (fun _ left => item.Stocked left)
      fun _ _ => False := by
  induction bindings generalizing session with
  | nil => exact h
  | cons binding rest ih =>
    obtain ⟨store, hstore, hstocked⟩ := h.set (hnames binding List.mem_cons_self) binding.2
    rw [ItemState.setAll, ensures_bind, ensures_get, hstore]
    exact ih hstocked fun other hother => hnames other (List.mem_cons_of_mem _ hother)

/-- Every variable of a stocked session can be read. -/
theorem Stocked.reads : (ItemState.view item.definition session).Reads where
  value := ItemState.failsUndeclared_read h.stores
  defaultValue name := by
    change FailsUndeclared (session.readDefault item.definition name)
    rw [FailsUndeclared, ItemState.readDefault, ItemState.declared]
    cases item.definition.resolve? name.text with
    | none => exact ⟨name, rfl⟩
    | some declaration => trivial
  correctValue name := by
    change FailsUndeclared (session.readCorrect item.definition name)
    rw [FailsUndeclared, ItemState.readCorrect, ItemState.declared]
    cases item.definition.resolve? name.text with
    | none => exact ⟨name, rfl⟩
    | some declaration => trivial

end stocked

/-- Rules of an item that make sense outside of tests keep a session stocked, and fail with no logic
error. -/
theorem stage_keeps_stocked (item : ItemDelivery) :
    (ItemState.stage item.definition).Keeps item.engine
      (fun expression => ∀ node ∈ expression.walk, node.isTestOnly = false) item.Stocked
      fun _ => False where
  evaluate hnodes hsession :=
    Expression.raisesOnly_false item.engine hsession.reads fun node hnode htest =>
      absurd ((hnodes node hnode).symm.trans htest) Bool.false_ne_true
  assign {session _ name declaration _ value} hsession hname _ := by
    change item.definition.resolve? name.text = some declaration at hname
    obtain ⟨store, hstore, hstocked⟩ :=
      hsession.set (ItemDefinition.mem_variableNames_of_resolve? hname) value
    simp only [ItemState.stage, ItemState.assign, ItemState.declared, hname, hstore, yields_bind,
      yields_ok]
    exact hstocked
  setCorrect {session name declaration overrides given value} hsession hname hover hvalue := by
    change item.definition.resolve? name.text = some declaration at hname
    cases hover
    obtain ⟨response, hresponse⟩ := ItemDefinition.exists_response_of_prepareFor hname hvalue
    simp only [ItemState.setCorrect, hresponse, yields_ok]
    exact ⟨hsession.digest, hsession.stores⟩
  setDefault {session name declaration overrides _ _} hsession hname hover _ := by
    change item.definition.resolve? name.text = some declaration at hname
    cases hover
    simp only [ItemState.setDefault, ItemState.declared, hname, yields_bind, yields_ok]
    exact ⟨hsession.digest, hsession.stores⟩

/-! ### Operations -/

/-- Template variables are put back without missing one. -/
theorem Stocked.ensures_restartTemplates (h : item.Stocked session) :
    (ItemState.restartTemplates item.definition).Ensures session (fun _ left => item.Stocked left)
      fun _ _ => False := by
  rw [ItemState.restartTemplates, ensures_bind, ensures_get]
  refine h.ensures_setAll ?_
  rintro _ hbinding
  obtain ⟨declaration, hdeclaration, rfl⟩ := List.mem_map.1 hbinding
  exact List.mem_map_of_mem hdeclaration

/-- What operations change keeps a session stocked. -/
theorem upholds_stocked (item : ItemDelivery) : item.Upholds item.Stocked where
  digest hsession := hsession.digest
  frame hbefore hsame := by
    refine ⟨hsame.digest.trans hbefore.digest, fun role name hname => ?_⟩
    rw [hsame.store]
    exact hbefore.stores role name hname
  duration hsession seconds := hsession.ensures_setAll fun _ hbinding => by
    rw [List.mem_singleton.1 hbinding]
    exact ItemDefinition.mem_variableNames_builtIn .duration
  attempts hsession := hsession.ensures_setAll fun _ hbinding => by
    rw [List.mem_singleton.1 hbinding]
    exact ItemDefinition.mem_variableNames_builtIn .numAttempts
  completion hsession completion := hsession.ensures_setAll fun _ hbinding => by
    rw [List.mem_singleton.1 hbinding]
    exact ItemDefinition.mem_variableNames_builtIn .completionStatus
  bind hsession hbound := hsession.ensures_setAll fun binding hbinding => by
    obtain ⟨_, _, hdeclaration, -⟩ := exists_response_of_bindResponses hbound hbinding
    exact ItemDefinition.mem_variableNames_of_response? hdeclaration
  templates hsession := hsession.ensures_restartTemplates
  responses hsession := hsession.ensures_setAll fun _ hbinding => by
    obtain ⟨declaration, hdeclaration, rfl⟩ := List.mem_map.1 hbinding
    exact List.mem_append_left _ (List.mem_map_of_mem hdeclaration)
  outcomes hsession := hsession.ensures_setAll fun _ hbinding => by
    obtain ⟨declaration, hdeclaration, rfl⟩ := List.mem_map.1 hbinding
    exact List.mem_append_left _ (List.mem_map_of_mem hdeclaration)

/-- Rules that make sense outside of tests miss no variable of a stocked session. -/
theorem processes_stocked (hrules : item.definition.StandsAlone) :
    item.Processes item.Stocked fun _ => True where
  toUpholds := item.upholds_stocked
  template hsession _ _ := by
    refine (Execution.ensures_on (Rule.ensures_executeTemplate item.stage_keeps_stocked
      (fun _ hsession => hsession.ensures_restartTemplates) hrules.templateProcessing
      hsession)).mono (fun _ _ hleft => ⟨hleft, trivial⟩) fun _ _ herror => herror
  response hsession _ _ := by
    refine (Execution.ensures_on (Rule.ensures_execute item.stage_keeps_stocked
      hrules.responseProcessing hsession)).mono (fun _ _ hleft => ⟨hleft, trivial⟩)
      fun _ _ herror => herror
  empty := trivial

end ItemDelivery

end Assessment
