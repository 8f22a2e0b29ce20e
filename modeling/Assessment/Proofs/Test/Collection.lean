import Assessment.Proofs.Test.Tally
import Assessment.Proofs.Value.Conformance

/-!
# Collecting the values of a variable

An expression of a test collects the values of a variable in the items of a subset. The values are
of the base type that is asked for, or numbers of both types if none is asked for, and weights make
doubles of words. The container is of a type that all of these have after words are widened.

## Main definitions

- `TestState.wanted`: the references whose items have a value to collect, with the values.
- `Container.Gathers`: a container holds the values that were collected.
- `TestState.IsCollection`: a value is a collection of the values of a session.

## Main results

- `TestDelivery.Attains.exists_collection`: in all sessions that requests lead to, values are
  collected without a fault.
-/

namespace Assessment

/-! ### Scalars that are collected -/

section scalars

variable {factor : Option Float} {baseType : Option BaseType} {scalar : Scalar}
  {collected : List Scalar}

/-- A factor makes doubles of numbers. -/
theorem baseType_weighted_eq_float_iff :
    (weighted factor scalar).baseType = .float ↔
      scalar.baseType = .float ∨ scalar.baseType.isNumeric = true ∧ factor.isSome = true := by
  cases factor <;> cases scalar <;> simp [weighted, Scalar.baseType, BaseType.isNumeric]

/-- Nothing else is changed by a factor. -/
theorem weighted_eq_self (h : (weighted factor scalar).baseType ≠ .float) :
    weighted factor scalar = scalar := by
  cases factor <;> cases scalar <;> first | rfl | exact absurd rfl h

theorem widened_eq_self {resultType : BaseType} (h : resultType ≠ .float) :
    widened resultType scalar = scalar := by
  cases resultType <;> first | rfl | exact absurd rfl h

/-- The double that a number is, or is widened to. -/
def Scalar.double? : Scalar → Option Float
  | .integer n => some (Word.toFloat n)
  | .float x => some x
  | _ => none

/-- Words become doubles before or after a factor is applied. -/
theorem exists_double (h : (widened .float (weighted factor scalar)).baseType = .float) :
    ∃ x, scalar.double? = some x ∧
      widened .float (weighted factor scalar) = .float (factor.elim x (x * ·)) := by
  cases scalar with
  | integer n => exact ⟨Word.toFloat n, rfl, by cases factor <;> rfl⟩
  | float x => exact ⟨x, rfl, by cases factor <;> rfl⟩
  | _ => cases factor <;> cases h

theorem baseType_widened_float (h : scalar.baseType.isNumeric = true) :
    (widened .float scalar).baseType = .float := by
  cases scalar <;> first | rfl | cases h

/-- A scalar is of the base type that is asked for, or both are numbers and it is a double. -/
def Fits (baseType : Option BaseType) (scalar : Scalar) : Prop :=
  scalar.baseType = baseType.getD .integer ∨
    (baseType.getD .integer).isNumeric = true ∧ scalar.baseType = .float

/-- What is collected fits, also with a factor. -/
theorem fits_weighted (h : isWanted baseType scalar = true) (factor : Option Float) :
    Fits baseType (weighted factor scalar) := by
  by_cases hfloat : (weighted factor scalar).baseType = .float
  · refine (or_iff_not_imp_left.2 fun hother => ⟨?_, hfloat⟩)
    rw [hfloat] at hother
    rw [baseType_weighted_eq_float_iff] at hfloat
    cases baseType with
    | none => rfl
    | some baseType =>
      obtain rfl := of_decide_eq_true h
      exact hfloat.elim (fun hscalar => absurd hscalar.symm hother) And.left
  · left
    have hself := weighted_eq_self hfloat
    rw [hself] at hfloat ⊢
    cases baseType with
    | none => cases scalar <;> first | rfl | exact absurd rfl hfloat | cases h
    | some baseType => exact of_decide_eq_true h

theorem collectionType_eq_of_ne_float (h : collectionType baseType collected ≠ .float) :
    collectionType baseType collected = baseType.getD .integer := by
  unfold collectionType at h ⊢
  dsimp only at h ⊢
  split at h
  next => exact absurd rfl h
  next hdeclared => rw [if_neg hdeclared]

variable (hfits : ∀ scalar ∈ collected, Fits baseType scalar)

include hfits

/-- The type of a collection is that of doubles just if one of the scalars is a double. -/
theorem collectionType_eq_float_iff (hsome : collected ≠ []) :
    collectionType baseType collected = .float ↔
      ∃ scalar ∈ collected, scalar.baseType = .float := by
  constructor
  · intro h
    obtain ⟨first, hfirst⟩ := List.exists_mem_of_ne_nil collected hsome
    unfold collectionType at h
    dsimp only at h
    split at h
    next hany =>
      obtain ⟨scalar, hscalar, hfloat⟩ := List.any_eq_true.1 (Bool.and_eq_true_iff.1 hany).2
      exact ⟨scalar, hscalar, of_decide_eq_true hfloat⟩
    next =>
      exact ⟨first, hfirst, (hfits first hfirst).elim (·.trans h) And.right⟩
  · rintro ⟨scalar, hscalar, hfloat⟩
    have hany : collected.any (·.baseType = .float) = true :=
      List.any_eq_true.2 ⟨scalar, hscalar, decide_eq_true hfloat⟩
    unfold collectionType
    dsimp only
    rw [hany, Bool.and_true]
    split
    next => rfl
    next hnumeric =>
      exact (hfits scalar hscalar).elim (fun h => h.symm.trans hfloat)
        fun h => absurd h.1 hnumeric

/-- Widened scalars are all of the type of the collection. -/
theorem baseType_widened (h : scalar ∈ collected) :
    (widened (collectionType baseType collected) scalar).baseType =
      collectionType baseType collected := by
  have hiff := collectionType_eq_float_iff hfits (List.ne_nil_of_mem h)
  -- Where one is a double, all are numbers and are widened. Otherwise none has to be.
  by_cases htype : collectionType baseType collected = .float
  · rw [htype]
    refine baseType_widened_float ?_
    obtain ⟨double, hdouble, hfloat⟩ := hiff.1 htype
    have hnumeric : (baseType.getD .integer).isNumeric = true :=
      (hfits double hdouble).elim (fun hsame => hsame ▸ hfloat ▸ rfl) And.left
    exact (hfits scalar h).elim (fun hsame => hsame ▸ hnumeric) fun hfloat => hfloat.2 ▸ rfl
  · rw [widened_eq_self htype, collectionType_eq_of_ne_float htype]
    exact (hfits scalar h).resolve_right fun hfloat => htype (hiff.2 ⟨scalar, h, hfloat.2⟩)

end scalars

/-! ### Collections -/

/-- A container holds scalars that belong to references, in order, with the factors that the
references give to numbers. If one of them is a double or has a factor, all become doubles. -/
structure Container.Gathers (container : Container) (weight : Option Identifier)
    (baseType : Option BaseType) (entries : List (ItemRef × Scalar)) : Prop where
  /-- All are of one base type. -/
  homogeneous : ∀ scalar ∈ container.items, scalar.baseType = container.baseType
  /-- They are doubles as soon as one is a double or a number with a factor. -/
  baseType_eq_float_iff : container.baseType = .float ↔ ∃ entry ∈ entries,
    entry.2.baseType = .float ∨
      entry.2.baseType.isNumeric = true ∧ (weight >>= entry.1.weight?).isSome = true
  /-- Then there is a double for each, in order, which is the number times its factor. -/
  doubles : container.baseType = .float → List.Forall₂ (fun scalar (entry : ItemRef × Scalar) =>
    ∃ x, entry.2.double? = some x ∧
      scalar = .float ((weight >>= entry.1.weight?).elim x (x * ·))) container.items entries
  /-- Otherwise they are of the base type that is asked for, or words. -/
  baseType_eq : container.baseType ≠ .float → container.baseType = baseType.getD .integer
  /-- Then nothing is made of the scalars. -/
  items_eq : container.baseType ≠ .float → container.items = entries.map Prod.snd

section gathering

variable {weight : Option Identifier} {baseType : Option BaseType}
  {entries : List (ItemRef × Scalar)}

/-- Scalars that are collected can be put together. -/
theorem exists_gathers (hwanted : ∀ entry ∈ entries, isWanted baseType entry.2 = true)
    (hsome : entries ≠ []) (operation : String) :
    let collected := entries.map fun entry => weighted (weight >>= entry.1.weight?) entry.2
    let resultType := collectionType baseType collected
    ∃ container : Container, container.Gathers weight baseType entries ∧
      buildContainer operation false resultType (collected.map (widened resultType)) =
        .ok (.multiple container) := by
  intro collected resultType
  have hfits : ∀ scalar ∈ collected, Fits baseType scalar := by
    intro scalar hscalar
    obtain ⟨entry, hentry, rfl⟩ := List.mem_map.1 hscalar
    exact fits_weighted (hwanted entry hentry) _
  have htype : resultType = .float ↔ ∃ entry ∈ entries, entry.2.baseType = .float ∨
      entry.2.baseType.isNumeric = true ∧ (weight >>= entry.1.weight?).isSome = true := by
    rw [collectionType_eq_float_iff hfits (mt List.map_eq_nil_iff.1 hsome)]
    simp only [collected, List.mem_map, exists_exists_and_eq_and, baseType_weighted_eq_float_iff]
  have hall : ∀ scalar ∈ collected.map (widened resultType), scalar.baseType = resultType := by
    intro scalar hscalar
    obtain ⟨given, hgiven, rfl⟩ := List.mem_map.1 hscalar
    exact baseType_widened hfits hgiven
  let container : Container := ⟨resultType, collected.map (widened resultType), hall⟩
  refine ⟨container,
    { homogeneous := hall
      baseType_eq_float_iff := htype
      doubles := fun hfloat => ?doubles
      baseType_eq := collectionType_eq_of_ne_float
      items_eq := fun hother => ?items }, ?built⟩
  case doubles =>
    change resultType = .float at hfloat
    change List.Forall₂ _ (collected.map (widened resultType)) entries
    rw [List.map_map, List.forall₂_map_left_iff, List.forall₂_same]
    intro entry hentry
    have hscalar := hall _ (List.mem_map_of_mem (List.mem_map_of_mem hentry))
    rw [hfloat] at hscalar ⊢
    exact exists_double hscalar
  case items =>
    change collected.map (widened resultType) = entries.map Prod.snd
    rw [List.map_map]
    refine List.map_congr_left fun entry hentry => ?_
    have hself : weighted (weight >>= entry.1.weight?) entry.2 = entry.2 :=
      weighted_eq_self fun hfloat =>
        hother (htype.2 ⟨entry, hentry, baseType_weighted_eq_float_iff.1 hfloat⟩)
    rw [Function.comp_apply, widened_eq_self hother, hself]
  case built =>
    have hnonempty : container.isEmpty = false := by
      simpa [Container.isEmpty, container, collected] using hsome
    have hbuilt := buildContainer_items container operation false
    rw [Value.ofContainer, hnonempty] at hbuilt
    exact hbuilt

end gathering

/-- A place is in a subset if the section is around it that is asked for, and its categories are
accepted. -/
def ItemSubset.acceptsPlaced (subset : ItemSubset) (placed : ItemRef × List Identifier) : Bool :=
  subset.within.all placed.2.contains && subset.acceptsCategories placed.1.categories

theorem TestItem.StandsFor.acceptsPlaced_eq {test : TestDefinition} {state : TestState}
    {item : TestItem} {placed : ItemRef × List Identifier} (h : item.StandsFor test state placed)
    (subset : ItemSubset) : subset.acceptsPlaced placed = subset.accepts item := by
  rw [ItemSubset.acceptsPlaced, ItemSubset.accepts, h.ref, h.sections]
  cases subset.within <;> rfl

namespace TestState

variable {test : TestDefinition} {state : TestState}

/-- The scalar that a variable of the item at a reference is bound to, if it is bound to one. -/
def scalarAt? (test : TestDefinition) (state : TestState) (name : Identifier) (ref : ItemRef) :
    Option Scalar := do
  let definition ← test.item? ref.item
  let session ← state.items.get? ref.identifier
  match session.read definition name with
  | .ok (.single scalar) => some scalar
  | _ => none

/-- The references in a subset whose items have a value to collect, with the values, in the order in
which they are written. -/
def wanted (test : TestDefinition) (state : TestState) (name : Identifier)
    (baseType : Option BaseType) (subset : ItemSubset) : List (ItemRef × Scalar) :=
  (test.placedRefs.filter subset.acceptsPlaced).filterMap fun placed =>
    ((state.scalarAt? test name placed.1).filter (isWanted baseType)).map (placed.1, ·)

/-- A value is the collection of the values that a variable has in the items of a subset. -/
structure IsCollection (test : TestDefinition) (state : TestState) (name : Identifier)
    (weight : Option Identifier) (baseType : Option BaseType) (subset : ItemSubset)
    (value : Value) : Prop where
  /-- The references are the items of the plan, in order, each in the sections around it. -/
  order : state.plan.items.map
      (fun i => ((state.plan.place i).map ItemPlace.names, state.plan.enclosingSections i)) =
    test.placedRefs.map fun placed => (.ok placed.1.names, placed.2)
  /-- There is nothing if there is no value to collect. -/
  null_iff : value = .null ↔ state.wanted test name baseType subset = []
  /-- Otherwise the values are put together. -/
  multiple : state.wanted test name baseType subset ≠ [] → ∃ container : Container,
    value = .multiple container ∧
      container.Gathers weight baseType (state.wanted test name baseType subset)

/-- An item that stands for a reference adds the scalar that its variable is bound to. -/
theorem collectedFrom_eq {item : TestItem} {placed : ItemRef × List Identifier}
    (h : item.StandsFor test state placed) {name : Identifier}
    (hread : FailsUndeclared (item.state.read item.definition name)) (weight : Option Identifier)
    (baseType : Option BaseType) :
    collectedFrom (fun item => item.state.read item.definition name) weight baseType item =
      .ok (((state.scalarAt? test name placed.1).filter (isWanted baseType)).map
        (weighted (weight >>= placed.1.weight?))) := by
  have hscalar : state.scalarAt? test name placed.1 =
      match item.state.read item.definition name with
      | .ok (.single scalar) => some scalar
      | _ => none := by
    rw [scalarAt?, h.definition, h.session]
    rfl
  rw [hscalar, collectedFrom, factorOf, h.ref]
  cases hvalue : item.state.read item.definition name with
  | error error =>
    rw [hvalue] at hread
    obtain ⟨_, rfl⟩ := hread
    rfl
  | ok value =>
    cases value with
    | single scalar =>
      by_cases hwanted : isWanted baseType scalar <;> simp [Option.filter, hwanted]
    | null | multiple _ | ordered _ | record _ => rfl

/-- An expression that collects values draws no random numbers and reports nothing. -/
theorem tryEvaluate_testVariables {items : List TestItem} (h : state.testItems test = .ok items)
    (name : Identifier) (weight : Option Identifier) (baseType : Option BaseType)
    (subset : ItemSubset) (engine : Engine) (environment : Environment) :
    ((Expression.testVariables name weight baseType subset).tryEvaluate engine
        (state.view test)).run.run environment =
      (testVariables (fun item => item.state.read item.definition name) weight baseType subset
        items, environment) := by
  have hleaf :
      (Expression.testVariables name weight baseType subset).tryEvaluate engine (state.view test) =
        evaluateLeaf (state.view test) (.testVariables name weight baseType subset) := rfl
  rw [hleaf, evaluateLeaf, aggregated_view h, pure_bind]
  dsimp only
  cases testVariables _ weight baseType subset items <;> rfl

/-- What the items add is put together. -/
theorem testVariables_eq {read : TestItem → Except LogicError Value} {weight : Option Identifier}
    {baseType : Option BaseType} {subset : ItemSubset} {items : List TestItem}
    {found : List (Option Scalar)} (h : (items.filter subset.accepts).mapM
      (collectedFrom read weight baseType) = .ok found) :
    testVariables read weight baseType subset items =
      match buildContainer "testVariables" false (collectionType baseType (found.filterMap id))
        ((found.filterMap id).map (widened (collectionType baseType (found.filterMap id)))) with
      | .ok value => .ok value
      | .error fault => .error (.runtime fault) := by
  rw [testVariables, h]
  rfl

/-- The values are collected where the items are those of the references and can be read. -/
theorem exists_isCollection (hplan : TestPlan.build test = .ok state.plan) {items : List TestItem}
    (hitems : List.Forall₂ (TestItem.StandsFor test state) items test.placedRefs)
    {name : Identifier} (hread : ∀ placed ∈ test.placedRefs, ∀ item : TestItem,
      item.StandsFor test state placed → FailsUndeclared (item.state.read item.definition name))
    (weight : Option Identifier) (baseType : Option BaseType) (subset : ItemSubset) :
    ∃ value, testVariables (fun item => item.state.read item.definition name) weight baseType subset
        items = .ok value ∧
      state.IsCollection test name weight baseType subset value := by
  have hfiltered : List.Forall₂ (TestItem.StandsFor test state) (items.filter subset.accepts)
      (test.placedRefs.filter subset.acceptsPlaced) :=
    List.rel_filter (fun item placed hitem => by
      dsimp only
      rw [hitem.acceptsPlaced_eq]) hitems
  have hresults := mapM_eq_ok_of_forall₂ hfiltered fun item placed hplaced hitem =>
    collectedFrom_eq hitem (hread placed (List.mem_filter.1 hplaced).1 item hitem) weight baseType
  have hcollected : ((test.placedRefs.filter subset.acceptsPlaced).map fun placed =>
      ((state.scalarAt? test name placed.1).filter (isWanted baseType)).map
        (weighted (weight >>= placed.1.weight?))).filterMap id =
      (state.wanted test name baseType subset).map fun entry =>
        weighted (weight >>= entry.1.weight?) entry.2 := by
    rw [wanted, List.filterMap_map, List.map_filterMap]
    congr 1
    funext placed
    rw [Function.comp_apply, Option.map_map]
    rfl
  have hwanted : ∀ entry ∈ state.wanted test name baseType subset,
      isWanted baseType entry.2 = true := by
    intro entry hentry
    obtain ⟨placed, -, hplaced⟩ := List.mem_filterMap.1 hentry
    obtain ⟨scalar, hscalar, rfl⟩ := Option.map_eq_some_iff.1 hplaced
    exact (Option.filter_eq_some_iff.1 hscalar).2
  have horder := TestPlan.map_sections_items hplan
  rw [testVariables_eq hresults, hcollected]
  by_cases hsome : state.wanted test name baseType subset = []
  -- An empty container is nothing, of whatever type it is.
  · refine ⟨.null, ?_, horder, ⟨fun _ => hsome, fun _ => rfl⟩, fun h => absurd hsome h⟩
    rw [hsome]
    rfl
  · obtain ⟨container, hgathers, hbuilt⟩ := exists_gathers hwanted hsome "testVariables"
    refine ⟨.multiple container, ?_, horder, ⟨nofun, fun h => absurd h hsome⟩,
      fun _ => ⟨container, rfl, hgathers⟩⟩
    rw [hbuilt]

end TestState

namespace TestDelivery

variable {delivery : TestDelivery} {state : TestState}

/-- In all sessions that requests lead to, however they are answered, an expression that collects
the values of a variable has a collection of them as its value. -/
theorem Attains.exists_collection
    (hdistinct : (delivery.definition.itemRefs.map ItemRef.identifier).Nodup)
    (h : delivery.Attains state) (name : Identifier) (weight : Option Identifier)
    (baseType : Option BaseType) (subset : ItemSubset) :
    ∃ value, (∀ (engine : Engine) (environment : Environment),
        ((Expression.testVariables name weight baseType subset).tryEvaluate engine
          (state.view delivery.definition)).run.run environment = (.ok value, environment)) ∧
      state.IsCollection delivery.definition name weight baseType subset value := by
  have hfurnished := h.furnished hdistinct
  obtain ⟨items, htestItems, hitems⟩ := hfurnished.exists_testItems hdistinct
  obtain ⟨value, hvalue, hcollection⟩ := TestState.exists_isCollection hfurnished.plan hitems
    (fun placed hplaced item hitem => by
      have href := TestDefinition.mem_itemRefs_of_mem_placedRefs hplaced
      obtain ⟨_, _, hdefinition, hsession, hstores⟩ := hfurnished.items placed.1 href
      obtain rfl := Option.some.inj (hdefinition.symm.trans hitem.definition)
      obtain rfl := Option.some.inj (hsession.symm.trans hitem.session)
      exact ItemState.failsUndeclared_read hstores name)
    weight baseType subset
  refine ⟨value, fun engine environment => ?_, hcollection⟩
  rw [TestState.tryEvaluate_testVariables htestItems, hvalue]

/-- The attempts at two items are collected, of which one was answered. -/
theorem exists_collection_pair :
    ((pair ⟨some 1, none, none⟩ []).definition.itemRefs.map ItemRef.identifier).Nodup ∧
      ∃ state value, (pair ⟨some 1, none, none⟩ []).Attains state ∧
        (state.wanted (pair ⟨some 1, none, none⟩ []).definition BuiltIn.numAttempts.identifier none
          .all).map Prod.snd = [.integer 1, .integer 0] ∧
        (∀ (engine : Engine) (environment : Environment),
          ((Expression.testVariables BuiltIn.numAttempts.identifier none none .all).tryEvaluate
            engine (state.view (pair ⟨some 1, none, none⟩ []).definition)).run.run environment =
              (.ok value, environment)) ∧
        state.IsCollection (pair ⟨some 1, none, none⟩ []).definition BuiltIn.numAttempts.identifier
          none none .all value := by
  have hsession : ((pair ⟨some 1, none, none⟩ []).sessionAfter 0
      [.enterTest (.logical 0), .enterPart (.unixMillis 0), .advance (.logical 0),
        .respond (.unixMillis 0) .empty, .advance (.logical 0)]).any (fun state =>
      (state.wanted (pair ⟨some 1, none, none⟩ []).definition BuiltIn.numAttempts.identifier none
        .all).map Prod.snd = [.integer 1, .integer 0]) = true := by
    decide +kernel
  have hdistinct :
      ((pair ⟨some 1, none, none⟩ []).definition.itemRefs.map ItemRef.identifier).Nodup := by
    decide +kernel
  obtain ⟨state, hstate, hwanted⟩ := (Option.any_eq_true _ _).1 hsession
  have hattains := (reachable_of_sessionAfter hstate).attains
  obtain ⟨value, hvalue, hcollection⟩ := Attains.exists_collection hdistinct hattains
    BuiltIn.numAttempts.identifier none none .all
  exact ⟨hdistinct, state, value, hattains, of_decide_eq_true hwanted, hvalue, hcollection⟩

/-! ### References of one name -/

end TestDelivery

/-- A test with two references of one name, of which only the first is to an item that declares a
grade. -/
def TestDefinition.namesakes : TestDefinition :=
  let test := TestDefinition.single .linear .individual
  let other : ItemDefinition := .bare ⟨"NAMESAKE", by decide +kernel⟩
  let grade : Identifier := ⟨"GRADE", by decide +kernel⟩
  let refs : List SectionPart := test.items.flatMap fun item =>
    [item, other].map fun named => .itemRef ⟨item.identifier, named.identifier, [], [], none, []⟩
  { test with
    parts := test.parts.map fun part =>
      { part with sections := part.sections.map ({ · with parts := refs }) }
    items := test.items.map ({ · with outcomes := [.simple grade (.single .integer) (.integer 0)] })
      ++ [other] }

/-- The test with these references, with an engine that has no extensions. -/
def TestDelivery.namesakes : TestDelivery :=
  { TestDelivery.single .linear .individual with
    definition := .namesakes
    itemDigests := .ofList (TestDefinition.namesakes.items.map fun item =>
      (item.identifier, ⟨.sha256, "item"⟩)) }

namespace TestDelivery

/-- The session under the name is that of the second item, so that the grade of the first is not
found. -/
theorem not_forall_exists_collection :
    ¬∀ (delivery : TestDelivery) (state : TestState), delivery.Attains state →
      ∀ (name : Identifier) (weight : Option Identifier) (baseType : Option BaseType)
        (subset : ItemSubset) (engine : Engine) (environment : Environment),
        ∃ value, ((Expression.testVariables name weight baseType subset).tryEvaluate engine
          (state.view delivery.definition)).run.run environment = (.ok value, environment) := by
  intro hall
  let grade : Identifier := ⟨"GRADE", by decide +kernel⟩
  have hsession : (namesakes.sessionAfter 0 []).any (fun state =>
      (state.testItems namesakes.definition).toOption.any fun items =>
        (testVariables (fun item => item.state.read item.definition grade) none none .all
          items).toOption.isNone) = true := by
    decide +kernel
  obtain ⟨state, hstate, hitems⟩ := (Option.any_eq_true _ _).1 hsession
  obtain ⟨items, htestItems, hnone⟩ := (Option.any_eq_true _ _).1 hitems
  obtain ⟨value, hvalue⟩ := hall namesakes state (reachable_of_sessionAfter hstate).attains grade
    none none .all ⟨.empty, .default⟩ ⟨.ofSeed 0, .empty .error⟩
  rw [TestState.tryEvaluate_testVariables (eq_ok_of_mem_toOption htestItems)] at hvalue
  rw [(Prod.mk.inj hvalue).1] at hnone
  cases hnone

end TestDelivery

end Assessment
