import Assessment.Proofs.Validation

/-!
# Types of the variables of item sessions

Values get into a session from many sides: from declared defaults and from those of a template, from
candidates, from interactions of extensions, from lookup tables and from rules, which also change
correct answers and defaults. All of them are checked against the declared type before they get in,
so that a session of a valid item only ever holds values of the declared types.

Changed correct answers and defaults are kept under bare names. It is because no two variables of a
valid item have one name that they are values of the variable that is meant.

## Main definitions

- `Declaration.Admits`: the values that a variable may have.
- `ItemDelivery.Typed`: a session in which all values are ones that their variables may have.
- `ItemState.WellTyped`: what is to be shown of these sessions.

## Main results

- `ItemDelivery.admits_of_prepareFor`: rules only assign values that variables may have.
- `ItemDelivery.upholds_typed` and `ItemDelivery.processes_typed`: all operations on item sessions
  keep them typed.
- `ItemDelivery.wellTyped_of_attains`: every session of a valid item is well-typed.
-/

namespace Assessment

open Action

/-! ### Values of variables -/

/-- The values that a built-in variable may have: a count is not negative, and only how far the
candidate has come may be left open. -/
def BuiltIn.Admits : BuiltIn → Value → Prop
  | .numAttempts, value => ∃ n : Int64, value = .integer n ∧ 0 ≤ n.toInt
  | .duration, value => ∃ seconds, value = .duration seconds
  | .completionStatus, value => value.isNull = true ∨ ∃ name, value = .identifier name

/-- The values that a variable may have: those of its type, if there are any. -/
def Declaration.Admits : Declaration → Value → Prop
  | .builtIn b, value => b.Admits value
  | declaration, value =>
    declaration.signature.isValid = true → value.conforms declaration.signature = true

namespace Value

/-- Nothing is a value of every type. -/
theorem conforms_of_isNull {value : Value} {signature : Signature} (h : value.isNull = true)
    (hvalid : signature.isValid = true) : value.conforms signature = true := by
  rw [conforms, hvalid, h]
  rfl

/-- A value of a type with one scalar is nothing or one scalar of the base type. -/
theorem isNull_or_single_of_conforms {value : Value} {base : BaseType}
    (h : value.conforms (.single base) = true) :
    value.isNull = true ∨ ∃ scalar : Scalar, value = .single scalar ∧ scalar.baseType = base := by
  simp only [conforms, Signature.single, Bool.and_eq_true, Bool.or_eq_true] at h
  obtain ⟨-, h | ⟨hcardinality, hbase⟩⟩ := h
  · exact .inl h
  · have hcardinality := of_decide_eq_true hcardinality
    have hbase := of_decide_eq_true hbase
    cases value with
    | single scalar => exact .inr ⟨scalar, rfl, Option.some.inj hbase⟩
    | null => exact .inl rfl
    | multiple _ | ordered _ | record _ =>
      unfold cardinality? at hcardinality
      split at hcardinality <;> cases hcardinality

end Value

theorem BuiltIn.conforms_of_admits {builtIn : BuiltIn} {value : Value} (h : builtIn.Admits value) :
    value.conforms builtIn.signature = true := by
  cases builtIn with
  | numAttempts =>
    obtain ⟨n, rfl, -⟩ := h
    rfl
  | duration =>
    obtain ⟨seconds, rfl⟩ := h
    rfl
  | completionStatus =>
    obtain h | ⟨name, rfl⟩ := h
    · exact Value.conforms_of_isNull h rfl
    · rfl

namespace Declaration

variable {declaration : Declaration} {value : Value}

/-- A value that a variable may have is of its type, if there are values of its type. -/
theorem conforms_of_admits (h : declaration.Admits value)
    (hvalid : declaration.signature.isValid = true) :
    value.conforms declaration.signature = true := by
  cases declaration with
  | builtIn builtIn => exact BuiltIn.conforms_of_admits h
  | template d => exact h hvalid
  | response d => exact h hvalid
  | outcome d => exact h hvalid

/-- A variable that is declared may have all values of its type. -/
theorem admits_of_conforms (hdeclared : declaration.isBuiltIn = false)
    (h : declaration.signature.isValid = true → value.conforms declaration.signature = true) :
    declaration.Admits value := by
  cases declaration with
  | builtIn builtIn => cases hdeclared
  | template d => exact h
  | response d => exact h
  | outcome d => exact h

end Declaration

/-! ### Typed stores -/

/-- A store has a value for every variable of a role and for nothing else, and each is one that the
variable may have. -/
structure Store.Typed (definition : ItemDefinition) (role : Role) (store : Store) : Prop where
  /-- The variables of the role have values. -/
  keys : ∀ name, store.contains name = true ↔ name ∈ definition.variableNames role
  /-- They have values that they may have. -/
  values : ∀ declaration ∈ definition.allVariables, declaration.role = role → ∀ value,
    store.get? declaration.identifier = some value → declaration.Admits value

/-- What stands in a store in place of what is declared is of the types of the variables. -/
def Store.Overrides (definition : ItemDefinition) (store : Store) : Prop :=
  ∀ declaration ∈ definition.allVariables, ∀ value,
    store.get? declaration.identifier = some value → value.conforms declaration.signature = true

namespace Store

variable {definition : ItemDefinition} {role : Role} {store changed : Store}
  {declaration : Declaration} {value : Value}

/-- A variable may be given another value that it may have. -/
theorem Typed.insert (hnames : definition.WellNamed) (h : store.Typed definition role)
    (hdeclaration : declaration ∈ definition.allVariables) (hrole : declaration.role = role)
    (hvalue : declaration.Admits value) :
    Store.Typed definition role (SortedMap.insert store declaration.identifier value) where
  keys name := by
    rw [SortedMap.contains_insert, h.keys]
    refine ⟨?_, .inr⟩
    rintro (rfl | hname)
    · exact ItemDefinition.mem_variableNames.2 ⟨declaration, hdeclaration, hrole, rfl⟩
    · exact hname
  values other hother hotherRole found hfound := by
    obtain ⟨hname, rfl⟩ | hbefore := SortedMap.eq_or_get?_of_insert hfound
    · rw [hnames.eq_of_identifier hother hdeclaration hname]
      exact hvalue
    · exact h.values other hother hotherRole found hbefore

/-- What stands in place of a declaration may be another value of the type. -/
theorem Overrides.insert (hnames : definition.WellNamed) (h : store.Overrides definition)
    (hdeclaration : declaration ∈ definition.allVariables)
    (hvalue : value.conforms declaration.signature = true) :
    Store.Overrides definition (SortedMap.insert store declaration.identifier value) := by
  intro other hother found hfound
  obtain ⟨hname, rfl⟩ | hbefore := SortedMap.eq_or_get?_of_insert hfound
  · rw [hnames.eq_of_identifier hother hdeclaration hname]
    exact hvalue
  · exact h other hother found hbefore

theorem overrides_empty : Store.Overrides definition .empty := by
  intro _ _ _ h
  cases h

/-- A value that stands in place of what is declared is one that the variable may have, and so is
the declared one. -/
theorem Overrides.admits_getD (h : store.Overrides definition)
    (hdeclaration : declaration ∈ definition.allVariables)
    (hdeclared : declaration.isBuiltIn = false) {initial : Value}
    (hinitial : declaration.Admits initial) :
    declaration.Admits ((store.get? declaration.identifier).getD initial) := by
  cases hfound : store.get? declaration.identifier with
  | none => exact hinitial
  | some value => exact Declaration.admits_of_conforms hdeclared fun _ => h _ hdeclaration _ hfound

end Store

/-! ### Typed sessions -/

namespace ItemDefinition

variable {definition : ItemDefinition}

/-- The variables of an item have different names, and those that are declared begin with values
that they may have. -/
structure DeclaresTyped (definition : ItemDefinition) : Prop where
  /-- The names are different. -/
  names : definition.WellNamed
  /-- The initial values are of the declared types. -/
  initial : ∀ declaration ∈ definition.allVariables, declaration.Admits declaration.initial

/-- The variables of an item without errors are of that kind. -/
theorem declaresTyped_of_validate {registry : Registry}
    (h : (definition.validate registry).errors = []) : definition.DeclaresTyped := by
  refine ⟨definition.wellNamed_of_validate h, fun declaration hdeclaration => ?_⟩
  cases declaration with
  | builtIn builtIn =>
    cases builtIn with
    | numAttempts => exact ⟨0, rfl, by decide⟩
    | duration => exact ⟨0.0, rfl⟩
    | completionStatus => exact .inr ⟨_, rfl⟩
  | template d | response d | outcome d =>
    intro hvalid
    have hdeclared := (List.mem_append.1 hdeclaration).resolve_left (by simp)
    have hdefault := definition.conforms_defaultValue_of_validate h _ hdeclared hvalid
    -- A variable without a default begins with nothing.
    change (initialOf d.defaultValue).conforms d.signature = true
    cases hvalue : d.defaultValue with
    | none => exact Value.conforms_of_isNull rfl hvalid
    | some value => exact hdefault value hvalue

/-- The variables of a role with their initial values. -/
def initialBindings (definition : ItemDefinition) : Role → List (Identifier × Value)
  | .template => definition.templates.map fun d => (d.identifier, d.initial)
  | .response =>
    definition.responses.map (fun d => (d.identifier, d.initial)) ++
      [(BuiltIn.numAttempts.identifier, BuiltIn.numAttempts.initial),
        (BuiltIn.duration.identifier, BuiltIn.duration.initial)]
  | .outcome =>
    definition.outcomes.map (fun d => (d.identifier, d.initial)) ++
      [(BuiltIn.completionStatus.identifier, BuiltIn.completionStatus.initial)]

theorem map_fst_initialBindings (role : Role) :
    (definition.initialBindings role).map Prod.fst = definition.variableNames role := by
  cases role <;> simp [initialBindings, variableNames]

/-- Each of them is a variable with its initial value. -/
theorem exists_of_mem_initialBindings {role : Role} {binding : Identifier × Value}
    (h : binding ∈ definition.initialBindings role) :
    ∃ declaration ∈ definition.allVariables,
      binding = (declaration.identifier, declaration.initial) := by
  cases role with
  | template =>
    obtain ⟨d, hd, rfl⟩ := List.mem_map.1 h
    exact ⟨.template d, mem_allVariables_template.2 hd, rfl⟩
  | response =>
    obtain h | h := List.mem_append.1 h
    · obtain ⟨d, hd, rfl⟩ := List.mem_map.1 h
      exact ⟨.response d, mem_allVariables_response.2 hd, rfl⟩
    · obtain rfl | h := List.mem_cons.1 h
      · exact ⟨.builtIn .numAttempts, mem_allVariables_builtIn _, rfl⟩
      · exact ⟨.builtIn .duration, mem_allVariables_builtIn _, List.mem_singleton.1 h⟩
  | outcome =>
    obtain h | h := List.mem_append.1 h
    · obtain ⟨d, hd, rfl⟩ := List.mem_map.1 h
      exact ⟨.outcome d, mem_allVariables_outcome.2 hd, rfl⟩
    · exact ⟨.builtIn .completionStatus, mem_allVariables_builtIn _, List.mem_singleton.1 h⟩

/-- The store of the variables of a role with their initial values is typed. -/
theorem DeclaresTyped.typed_ofVariables (h : definition.DeclaresTyped) (role : Role) :
    Store.Typed definition role (Store.ofVariables (definition.initialBindings role)) where
  keys name := by
    rw [Store.ofVariables, SortedMap.contains_ofList, ← map_fst_initialBindings]
  values declaration hdeclaration _ value hvalue := by
    obtain ⟨other, hother, hbinding⟩ :=
      exists_of_mem_initialBindings (SortedMap.mem_of_get?_ofList hvalue)
    rw [Prod.mk.injEq] at hbinding
    obtain ⟨hname, rfl⟩ := hbinding
    rw [h.names.eq_of_identifier hdeclaration hother hname]
    exact h.initial _ hother

end ItemDefinition

namespace ItemDelivery

variable {item : ItemDelivery} {session : ItemState}

/-- A session of the item in which all values are ones that their variables may have. -/
structure Typed (item : ItemDelivery) (session : ItemState) : Prop where
  /-- It is a session of the item. -/
  digest : session.digest = item.digest
  /-- The variables have values that they may have. -/
  stores : ∀ role, (session.store role).Typed item.definition role
  /-- The template variables start with values of their types. -/
  templateDefaults : session.templateDefaults.Overrides item.definition
  /-- Correct answers are of the types of the responses. -/
  correctOverrides : session.correctOverrides.Overrides item.definition
  /-- Defaults are of the types of the variables. -/
  defaultOverrides : session.defaultOverrides.Overrides item.definition

/-- A typed session lacks nothing. -/
theorem Typed.stocked (h : item.Typed session) : item.Stocked session :=
  ⟨h.digest, fun role name hname => ((h.stores role).keys name).2 hname⟩

/-- A variable of a typed session may be given another value that it may have. -/
theorem Typed.set (h : item.Typed session) (hdefinition : item.definition.DeclaresTyped)
    {declaration : Declaration} {value : Value}
    (hdeclaration : declaration ∈ item.definition.allVariables)
    (hvalue : declaration.Admits value) :
    ∃ store, (session.store declaration.role).set declaration.identifier value = .ok store ∧
      item.Typed (session.setStore declaration.role store) := by
  have hname : declaration.identifier ∈ item.definition.variableNames declaration.role :=
    ItemDefinition.mem_variableNames.2 ⟨declaration, hdeclaration, rfl, rfl⟩
  have hcontains := ((h.stores declaration.role).keys _).2 hname
  refine ⟨_, Store.set_eq_ok_iff.2 ⟨hcontains, rfl⟩, ?_, fun role => ?_, ?_, ?_, ?_⟩
  · rw [ItemState.digest_setStore]
    exact h.digest
  · by_cases hrole : role = declaration.role
    · subst hrole
      rw [ItemState.store_setStore_self]
      exact (h.stores _).insert hdefinition.names hdeclaration rfl hvalue
    · rw [ItemState.store_setStore_of_ne hrole]
      exact h.stores role
  · rw [ItemState.templateDefaults_setStore]
    exact h.templateDefaults
  · rw [ItemState.correctOverrides_setStore]
    exact h.correctOverrides
  · rw [ItemState.defaultOverrides_setStore]
    exact h.defaultOverrides

/-- What was prepared for a variable is a value of its type that it may have. -/
theorem admits_of_prepareFor {target : Target} {name : Identifier} {declaration : Declaration}
    {given value : Value} (h : prepareFor target name declaration given = .ok value) :
    declaration.Admits value ∧ value.conforms declaration.signature = true := by
  unfold prepareFor at h
  split at h
  next => cases h
  next hmaintained =>
    split at h
    next => cases h
    next =>
      -- Whatever was looked up and made a double, the value is checked in the end.
      cases hlooked : lookedUp target declaration name given with
      | error problem =>
        rw [hlooked] at h
        cases h
      | ok looked =>
        rw [hlooked] at h
        change (if (coerce looked declaration.signature).conforms declaration.signature = true then
          _ else _) = _ at h
        split at h
        next hconforms =>
          cases h
          refine ⟨?_, hconforms⟩
          cases declaration with
          | template d | response d | outcome d => exact fun _ => hconforms
          | builtIn builtIn =>
            cases builtIn with
            | numAttempts | duration => exact absurd rfl hmaintained
            | completionStatus =>
              refine (Value.isNull_or_single_of_conforms hconforms).imp_right ?_
              rintro ⟨scalar, hscalar, hbase⟩
              cases scalar with
              | identifier name => exact ⟨name, hscalar⟩
              | _ => cases hbase
        next => cases h

/-- The value that binds a response is of the type of the variable, also where an extension gives
it. -/
theorem yields_bindOne (item : ItemDelivery) (declaration : ResponseDeclaration)
    (data : ResponseData) :
    Yields (item.bindOne declaration data)
      (fun value => value.conforms declaration.signature = true) fun _ => True := by
  have hcheck : ∀ value : Value,
      Yields (if value.conforms declaration.signature = true then .ok value
        else .error (.misfit declaration.signature) : Except ResponseProblem Value)
        (fun value => value.conforms declaration.signature = true) fun _ => True := by
    intro value
    split
    next hconforms => exact hconforms
    next => trivial
  -- Wherever the value comes from, the check is made last.
  unfold bindOne
  dsimp only
  split
  next =>
    split
    next =>
      split
      next => exact hcheck _
      next => trivial
    next => trivial
  next =>
    split
    next => exact hcheck _
    next => trivial

/-- The count of attempts of a typed session is not negative. -/
theorem Typed.attempts_nonneg (h : item.Typed session) : 0 ≤ session.attempts.toInt := by
  rw [ItemState.attempts]
  cases hfound : session.responses.get? BuiltIn.numAttempts.identifier with
  | none => decide
  | some value =>
    obtain ⟨n, rfl, hn⟩ := (h.stores .response).values (.builtIn .numAttempts)
      (ItemDefinition.mem_allVariables_builtIn _) rfl value hfound
    exact hn

section upholds

variable (hdefinition : item.definition.DeclaresTyped)

include hdefinition

/-- Values that variables may have may be put in for several of them. -/
theorem Typed.ensures_setAll (h : item.Typed session) {role : Role}
    {bindings : List (Identifier × Value)}
    (hbindings : ∀ binding ∈ bindings, ∃ declaration ∈ item.definition.allVariables,
      declaration.role = role ∧ declaration.identifier = binding.1 ∧
        declaration.Admits binding.2) :
    (ItemState.setAll role bindings).Ensures session (fun _ => item.Typed) fun _ _ => False := by
  induction bindings generalizing session with
  | nil => exact h
  | cons binding rest ih =>
    obtain ⟨hfirst, hrest⟩ := List.forall_mem_cons.1 hbindings
    obtain ⟨declaration, hdeclaration, hrole, hname, hvalue⟩ := hfirst
    obtain ⟨store, hset, hsession⟩ := h.set hdefinition hdeclaration hvalue
    rw [hrole, hname] at hset
    rw [ItemState.setAll, ensures_bind, ensures_get, hset]
    rw [hrole] at hsession
    exact ih hsession hrest

/-- Rules that make sense outside of tests keep a session typed, and fail with no logic error. -/
theorem stage_keeps_typed :
    (ItemState.stage item.definition).Keeps item.engine
      (fun expression => ∀ node ∈ expression.walk, node.isTestOnly = false) item.Typed
      fun _ => False where
  evaluate hnodes hsession := item.stage_keeps_stocked.evaluate hnodes hsession.stocked
  assign {session _ name declaration _ value} hsession hname hvalue := by
    change item.definition.resolve? name.text = some declaration at hname
    obtain ⟨hdeclaration, rfl⟩ := ItemDefinition.mem_allVariables_of_resolve? hname
    obtain ⟨store, hset, hleft⟩ :=
      hsession.set hdefinition hdeclaration (admits_of_prepareFor hvalue).1
    simp only [ItemState.stage, ItemState.assign, ItemState.declared, hname, hset, yields_bind,
      yields_ok]
    exact hleft
  setCorrect {session name declaration overrides given value} hsession hname hover hvalue := by
    change item.definition.resolve? name.text = some declaration at hname
    cases hover
    obtain ⟨response, hresponse⟩ := ItemDefinition.exists_response_of_prepareFor hname hvalue
    obtain ⟨hdeclaration, rfl⟩ := ItemDefinition.mem_allVariables_of_resolve? hname
    simp only [ItemState.setCorrect, hresponse, yields_ok]
    exact { hsession with
      correctOverrides := hsession.correctOverrides.insert hdefinition.names hdeclaration
        (admits_of_prepareFor hvalue).2 }
  setDefault {session name declaration overrides given value} hsession hname hover hvalue := by
    change item.definition.resolve? name.text = some declaration at hname
    cases hover
    obtain ⟨hdeclaration, rfl⟩ := ItemDefinition.mem_allVariables_of_resolve? hname
    simp only [ItemState.setDefault, ItemState.declared, hname, yields_bind, yields_ok]
    exact { hsession with
      defaultOverrides := hsession.defaultOverrides.insert hdefinition.names hdeclaration
        (admits_of_prepareFor hvalue).2 }

/-- Template variables are put back to values that they may have. -/
theorem Typed.ensures_restartTemplates (h : item.Typed session) :
    (ItemState.restartTemplates item.definition).Ensures session (fun _ => item.Typed)
      fun _ _ => False := by
  rw [ItemState.restartTemplates, ensures_bind, ensures_get]
  refine h.ensures_setAll hdefinition ?_
  rintro _ hbinding
  obtain ⟨d, hd, rfl⟩ := List.mem_map.1 hbinding
  have hdeclaration := ItemDefinition.mem_allVariables_template.2 hd
  refine ⟨.template d, hdeclaration, rfl, rfl, ?_⟩
  exact h.templateDefaults.admits_getD hdeclaration rfl (hdefinition.initial _ hdeclaration)

/-- What operations change keeps a session typed. -/
theorem upholds_typed : item.Upholds item.Typed where
  digest hsession := hsession.digest
  frame hbefore hsame := by
    refine ⟨hsame.digest.trans hbefore.digest, fun role => ?_, ?_, ?_, ?_⟩
    · rw [hsame.store]
      exact hbefore.stores role
    · rw [hsame.templateDefaults]
      exact hbefore.templateDefaults
    · rw [hsame.correctOverrides]
      exact hbefore.correctOverrides
    · rw [hsame.defaultOverrides]
      exact hbefore.defaultOverrides
  duration hsession seconds := by
    refine hsession.ensures_setAll hdefinition fun binding hbinding => ?_
    rw [List.mem_singleton.1 hbinding]
    exact ⟨.builtIn .duration, ItemDefinition.mem_allVariables_builtIn _, rfl, rfl, seconds, rfl⟩
  attempts {session} hsession := by
    refine hsession.ensures_setAll hdefinition fun binding hbinding => ?_
    rw [List.mem_singleton.1 hbinding]
    refine ⟨.builtIn .numAttempts, ItemDefinition.mem_allVariables_builtIn _, rfl, rfl, _, rfl, ?_⟩
    exact Int.le_trans (hsession.attempts_nonneg) (Word.le_succSaturating _)
  completion hsession completion := by
    refine hsession.ensures_setAll hdefinition fun binding hbinding => ?_
    rw [List.mem_singleton.1 hbinding]
    exact ⟨.builtIn .completionStatus, ItemDefinition.mem_allVariables_builtIn _, rfl, rfl,
      .inr ⟨_, rfl⟩⟩
  bind hsession hbound := by
    refine hsession.ensures_setAll hdefinition fun binding hbinding => ?_
    obtain ⟨d, data, hname, hvalue⟩ := exists_response_of_bindResponses hbound hbinding
    obtain ⟨hdeclaration, hidentifier⟩ := ItemDefinition.mem_allVariables_of_response? hname
    refine ⟨.response d, hdeclaration, rfl, hidentifier, fun _ => ?_⟩
    have hconforms := yields_bindOne item d data
    rw [hvalue] at hconforms
    exact hconforms
  templates hsession := hsession.ensures_restartTemplates hdefinition
  responses hsession := by
    refine hsession.ensures_setAll hdefinition fun binding hbinding => ?_
    obtain ⟨d, hd, rfl⟩ := List.mem_map.1 hbinding
    have hdeclaration := ItemDefinition.mem_allVariables_response.2 hd
    exact ⟨.response d, hdeclaration, rfl, rfl,
      hsession.defaultOverrides.admits_getD hdeclaration rfl (hdefinition.initial _ hdeclaration)⟩
  outcomes hsession := by
    refine hsession.ensures_setAll hdefinition fun binding hbinding => ?_
    obtain ⟨d, hd, rfl⟩ := List.mem_map.1 hbinding
    have hdeclaration := ItemDefinition.mem_allVariables_outcome.2 hd
    exact ⟨.outcome d, hdeclaration, rfl, rfl,
      hsession.defaultOverrides.admits_getD hdeclaration rfl (hdefinition.initial _ hdeclaration)⟩

/-- Rules that make sense outside of tests keep a session typed. -/
theorem processes_typed (hrules : item.definition.StandsAlone) :
    item.Processes item.Typed fun _ => True where
  toUpholds := upholds_typed hdefinition
  template hsession _ _ := by
    refine (Execution.ensures_on (Rule.ensures_executeTemplate (stage_keeps_typed hdefinition)
      (fun _ hsession => hsession.ensures_restartTemplates hdefinition) hrules.templateProcessing
      hsession)).mono (fun _ _ hleft => ⟨hleft, trivial⟩) fun _ _ herror => herror
  response hsession _ _ := by
    refine (Execution.ensures_on (Rule.ensures_execute (stage_keeps_typed hdefinition)
      hrules.responseProcessing hsession)).mono (fun _ _ hleft => ⟨hleft, trivial⟩)
      fun _ _ herror => herror
  empty := trivial

end upholds

/-! ### New sessions -/

/-- Values that are put into a store in turn keep what each of them keeps. -/
theorem putDefaults_keeps {holds : Store → Prop} {entries : List (Identifier × Value)}
    (hentries : ∀ entry ∈ entries, ∀ store, holds store →
      Yields (store.set entry.1 entry.2) holds fun _ => True) {store : Store}
    (hstore : holds store) : Yields (putDefaults store entries) holds fun _ => True := by
  induction entries generalizing store with
  | nil => exact hstore
  | cons entry rest ih =>
    obtain ⟨hfirst, hrest⟩ := List.forall_mem_cons.1 hentries
    rw [putDefaults, yields_bind]
    exact (hfirst store hstore).mono (fun _ hset => ih hrest hset) fun _ _ => trivial

/-- Values that stand in place of the defaults of template variables are of their types. -/
theorem exists_template_of_defaultProblems {templateDefaults : Store}
    (h : item.defaultProblems templateDefaults = []) :
    ∀ entry ∈ templateDefaults.toList, ∃ d, item.definition.template? entry.1 = some d ∧
      entry.2.conforms d.signature = true := by
  intro entry hentry
  have hnone := List.filterMap_eq_nil_iff.1 h entry hentry
  rw [Option.map_eq_none_iff, defaultProblem?] at hnone
  split at hnone
  next => cases hnone
  next d hname =>
    split at hnone
    next hconforms => exact ⟨d, hname, hconforms⟩
    next => cases hnone

/-- Such values lead from a typed store to a typed store. -/
theorem yields_putDefaults (hdefinition : item.definition.DeclaresTyped) {templateDefaults : Store}
    (h : item.defaultProblems templateDefaults = []) {templates : Store}
    (htemplates : templates.Typed item.definition .template) :
    Yields (putDefaults templates templateDefaults.toList)
      (fun templates => templates.Typed item.definition .template) fun _ => True := by
  refine putDefaults_keeps (fun entry hentry store hstore => ?_) htemplates
  obtain ⟨d, hname, hconforms⟩ := exists_template_of_defaultProblems h entry hentry
  obtain ⟨hdeclaration, hidentifier⟩ := ItemDefinition.mem_allVariables_of_template? hname
  refine yields_iff.2 ⟨fun changed hset => ?_, fun _ _ => trivial⟩
  obtain ⟨-, rfl⟩ := Store.set_eq_ok_iff.1 hset
  rw [← hidentifier]
  exact hstore.insert hdefinition.names hdeclaration rfl fun _ => hconforms

/-- A new session is typed, also where template variables start with other values. -/
theorem typed_of_create (hdefinition : item.definition.DeclaresTyped) {templateDefaults : Store}
    {seed : UInt64} (h : item.create templateDefaults seed = .ok session) : item.Typed session := by
  unfold create at h
  dsimp only at h
  split at h
  next => cases h
  next hproblems =>
    have htemplates := yields_putDefaults hdefinition hproblems
      (hdefinition.typed_ofVariables .template)
    split at h
    next templates hput =>
      rw [show putDefaults (Store.ofVariables (item.definition.initialBindings .template)) _ = _
        from hput] at htemplates
      cases h
      refine ⟨rfl, fun role => ?_, ?_, Store.overrides_empty, Store.overrides_empty⟩
      · cases role with
        | template => exact htemplates
        | response =>
          have hresponses := hdefinition.typed_ofVariables .response
          rw [ItemDefinition.initialBindings, Store.ofVariables, SortedMap.ofList,
            List.foldl_append] at hresponses
          exact hresponses
        | outcome =>
          have houtcomes := hdefinition.typed_ofVariables .outcome
          rw [ItemDefinition.initialBindings, Store.ofVariables, SortedMap.ofList,
            List.foldl_append] at houtcomes
          exact houtcomes
      · intro declaration hdeclaration value hvalue
        obtain ⟨d, hname, hconforms⟩ := exists_template_of_defaultProblems hproblems _
          (SortedMap.mem_toList_of_get? hvalue)
        obtain ⟨hother, hidentifier⟩ := ItemDefinition.mem_allVariables_of_template? hname
        rw [hdefinition.names.eq_of_identifier hdeclaration hother hidentifier.symm]
        exact hconforms
    next => cases h

end ItemDelivery

/-! ### All sessions of valid items -/

/-- A session of an item has a value for each of its variables and for nothing else; every value,
every changed correct answer and every changed default of a variable is of the declared type, if
there are values of that type; and the built-in variables hold what they are meant to. -/
structure ItemState.WellTyped (definition : ItemDefinition) (session : ItemState) : Prop where
  /-- The variables of each role have values, and nothing else has. -/
  keys : ∀ role name, (session.store role).contains name = true ↔
    name ∈ definition.variableNames role
  /-- The values are of the declared types. -/
  values : ∀ declaration ∈ definition.allVariables, declaration.signature.isValid = true →
    ∀ value, (session.store declaration.role).get? declaration.identifier = some value →
      value.conforms declaration.signature = true
  /-- Changed correct answers are of the declared types. -/
  correctOverrides : ∀ declaration ∈ definition.allVariables,
    declaration.signature.isValid = true →
    ∀ value, session.correctOverrides.get? declaration.identifier = some value →
      value.conforms declaration.signature = true
  /-- Changed defaults are of the declared types. -/
  defaultOverrides : ∀ declaration ∈ definition.allVariables,
    declaration.signature.isValid = true →
    ∀ value, session.defaultOverrides.get? declaration.identifier = some value →
      value.conforms declaration.signature = true
  /-- Attempts are counted by an integer that is not negative. -/
  numAttempts : ∃ n : Int64,
    session.responses.get? BuiltIn.numAttempts.identifier = some (.integer n) ∧ 0 ≤ n.toInt
  /-- Time is counted by a duration. -/
  duration : ∃ seconds,
    session.responses.get? BuiltIn.duration.identifier = some (.duration seconds)
  /-- How far the candidate has come is left open or said by an identifier. -/
  completionStatus : ∃ value,
    session.outcomes.get? BuiltIn.completionStatus.identifier = some value ∧
      (value.isNull = true ∨ ∃ name, value = .identifier name)

namespace ItemDelivery

variable {item : ItemDelivery} {session : ItemState}

/-- A built-in variable of a typed session has a value that it may have. -/
theorem Typed.exists_builtIn (h : item.Typed session) (builtIn : BuiltIn) :
    ∃ value, (session.store builtIn.role).get? builtIn.identifier = some value ∧
      builtIn.Admits value := by
  have hstore := h.stores builtIn.role
  have hcontains := (hstore.keys _).2 (ItemDefinition.mem_variableNames_builtIn builtIn)
  obtain ⟨value, hvalue⟩ := Option.isSome_iff_exists.1 hcontains
  exact ⟨value, hvalue, hstore.values (.builtIn builtIn)
    (ItemDefinition.mem_allVariables_builtIn builtIn) rfl value hvalue⟩

theorem Typed.wellTyped (h : item.Typed session) : session.WellTyped item.definition where
  keys role := (h.stores role).keys
  values declaration hdeclaration hvalid value hvalue :=
    Declaration.conforms_of_admits ((h.stores _).values declaration hdeclaration rfl value hvalue)
      hvalid
  correctOverrides declaration hdeclaration _ := h.correctOverrides declaration hdeclaration
  defaultOverrides declaration hdeclaration _ := h.defaultOverrides declaration hdeclaration
  numAttempts := by
    obtain ⟨_, hvalue, n, rfl, hn⟩ := h.exists_builtIn .numAttempts
    exact ⟨n, hvalue, hn⟩
  duration := by
    obtain ⟨_, hvalue, seconds, rfl⟩ := h.exists_builtIn .duration
    exact ⟨seconds, hvalue⟩
  completionStatus := h.exists_builtIn .completionStatus

/-- Where validation finds no errors in an item, every session that operations lead to is
well-typed, whatever extensions and options the engine has. -/
theorem wellTyped_of_attains {registry : Registry}
    (hvalid : (item.definition.validate registry).errors = []) (h : item.Attains session) :
    session.WellTyped item.definition := by
  have hdefinition := ItemDefinition.declaresTyped_of_validate hvalid
  have hprocesses := processes_typed hdefinition (ItemDefinition.standsAlone_of_validate hvalid)
  exact (h.invariant hprocesses fun _ _ _ => typed_of_create hdefinition).wellTyped

end ItemDelivery

/-! ### A small item -/

/-- An item whose template processing chooses a number, makes it the correct answer and changes the
default of the score, and whose response processing counts a correct answer. -/
def ItemDefinition.guess : ItemDefinition :=
  let number : Identifier := ⟨"NUMBER", by decide +kernel⟩
  let response : Identifier := ⟨"RESPONSE", by decide +kernel⟩
  let score : Identifier := ⟨"SCORE", by decide +kernel⟩
  { ItemDefinition.bare ⟨"GUESS", by decide +kernel⟩ with
    templates := [⟨number, .single .integer, some (.integer 1), false, false⟩]
    responses := [⟨response, .single .integer, none, none, none, none⟩]
    outcomes := [.simple score (.single .integer) (.integer 0)]
    templateProcessing :=
      [.assign .templateValue number (.randomInteger 1 6 1),
        .assign .correctResponse response (.valueOf number none),
        .assign .defaultValue score (.baseValue (.integer 1))]
    responseProcessing :=
      [.condition [.mk (.apply .equalValues [.valueOf response none, .correctOf response])
        [.assign .outcomeValue score (.baseValue (.integer 2))]] none] }

/-- The response variable of the item. -/
def ItemDefinition.guessResponse : Identifier := ⟨"RESPONSE", by decide +kernel⟩

/-- The item with an engine that has no extensions. -/
def ItemDelivery.guess : ItemDelivery :=
  ⟨ItemDefinition.guess, ⟨.empty, .default⟩, ⟨.sha256, "guess"⟩⟩

namespace ItemDelivery

/-- The session after some operations on a new one. -/
def sessionAfter (item : ItemDelivery) (templateDefaults : Store) (seed : UInt64)
    (requests : List ItemRequest) : Option ItemState :=
  match item.create templateDefaults seed with
  | .error _ => none
  | .ok session =>
    some (requests.foldl (fun session request => ((item.serve request).run.run session).2) session)

theorem attains_of_sessionAfter {item : ItemDelivery} {templateDefaults : Store} {seed : UInt64}
    {requests : List ItemRequest} {session : ItemState}
    (h : item.sessionAfter templateDefaults seed requests = some session) :
    item.Attains session := by
  unfold sessionAfter at h
  split at h
  next => cases h
  next start hstart =>
    cases h
    have hattains : item.Attains start := .created hstart
    clear hstart
    induction requests generalizing start with
    | nil => exact hattains
    | cons request rest ih => exact ih _ (hattains.served request)

/-- An attempt on the small item counts, and leaves a changed correct answer and a changed
default. -/
theorem wellTyped_of_attains_guess :
    (ItemDelivery.guess.definition.validate .empty).errors = [] ∧
    ∃ session, ItemDelivery.guess.Attains session ∧ session.attempts = 1 ∧
      session.correctOverrides.size = 1 ∧ session.defaultOverrides.size = 1 ∧
      session.WellTyped ItemDelivery.guess.definition := by
  have hvalid : (ItemDelivery.guess.definition.validate .empty).errors = [] := by
    decide +kernel
  have hsession : (ItemDelivery.guess.sessionAfter .empty 7
      [.processTemplate, .enter (.logical 0), .suspend (.unixMillis 0),
        .attempt (.ofList [(⟨"RESPONSE", by decide +kernel⟩, .strings ["3"])]) (.unixMillis 0)
          ⟨1, true, false⟩]).any (fun session =>
      session.attempts = 1 && session.correctOverrides.size = 1 &&
        session.defaultOverrides.size = 1) = true := by
    decide +kernel
  obtain ⟨session, hafter, hcounts⟩ := (Option.any_eq_true _ _).1 hsession
  simp only [Bool.and_eq_true, decide_eq_true_eq] at hcounts
  obtain ⟨⟨hattempts, hcorrect⟩, hdefault⟩ := hcounts
  have hattains := attains_of_sessionAfter hafter
  exact ⟨hvalid, session, hattains, hattempts, hcorrect, hdefault,
    wellTyped_of_attains hvalid hattains⟩

end ItemDelivery

end Assessment
