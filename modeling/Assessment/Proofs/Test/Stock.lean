import Assessment.Proofs.Test.Creation
import Assessment.Proofs.Test.Request
import Assessment.Proofs.Validation

/-!
# Test sessions that lack nothing

A session of a well-formed test has a session for every item and a value for every outcome variable,
and what it remembers as its current part and its current item are nodes of its plan. Everything
that an operation looks up is therefore found, so no operation fails with a logic error.

## Main definitions

- `TestDelivery.Stocked`: a session of the test that has all that operations look up.
- `TestDelivery.Maintains` and `TestDelivery.Reports`: an operation keeps a session stocked and does
  not fail with a logic error, and what holds of its result.
- `TestDelivery.ReportsOnly`: what holds of all that the parts of requests report.

## Main results

- `TestDelivery.Stocked.reads` and `TestDelivery.Stocked.aggregates`: expressions find all that they
  look up in a stocked session.
- `TestDelivery.Stocked.onItem`: an operation that keeps the sessions of items stocked maintains
  that of the test.
-/

namespace Assessment

open Action

/-- The names of the variables of a test as a whole, the one that is built in behind those that are
declared. -/
def TestDefinition.variableNames (test : TestDefinition) : List Identifier :=
  test.outcomes.map (·.identifier) ++ [BuiltIn.duration.identifier]

/-- The conditions of the parts of a test and of its references to items, and those of branches. -/
def TestDefinition.conditions (test : TestDefinition) : List Expression :=
  test.parts.flatMap (fun part => part.preConditions ++ part.branchRules.map (·.expression)) ++
    test.itemRefs.flatMap (·.preConditions)

/-- The conditions of a part are conditions of its test. -/
theorem TestDefinition.mem_conditions_of_part {test : TestDefinition} {part : TestPart}
    {condition : Expression} (hpart : part ∈ test.parts) (h : condition ∈ part.preConditions) :
    condition ∈ test.conditions :=
  List.mem_append_left _ (List.mem_flatMap.2 ⟨part, hpart, List.mem_append_left _ h⟩)

/-- The conditions of branches are conditions of their test. -/
theorem TestDefinition.mem_conditions_of_branch {test : TestDefinition} {part : TestPart}
    {rule : BranchRule} (hpart : part ∈ test.parts) (h : rule ∈ part.branchRules) :
    rule.expression ∈ test.conditions := by
  refine List.mem_append_left _ (List.mem_flatMap.2 ⟨part, hpart, ?_⟩)
  exact List.mem_append_right _ (List.mem_map_of_mem h)

/-- The conditions of a reference to an item are conditions of its test. -/
theorem TestDefinition.mem_conditions_of_itemRef? (test : TestDefinition) {name : Identifier} :
    ∀ condition ∈ ((test.itemRef? name).map (·.preConditions)).getD [],
      condition ∈ test.conditions := by
  intro condition h
  cases href : test.itemRef? name with
  | none =>
    rw [href] at h
    cases h
  | some ref =>
    rw [href] at h
    refine List.mem_append_right _ (List.mem_flatMap.2 ⟨ref, ?_, h⟩)
    exact List.mem_of_find?_eq_some href

/-- A place belongs to a reference of a test. -/
def TestDefinition.RefersTo (test : TestDefinition) (place : ItemPlace) : Prop :=
  place.names ∈ test.itemRefs.map ItemRef.names

/-- A variable of a test as a whole is one of its variables. -/
theorem TestState.mem_variableNames_of_ownDeclaration? {test : TestDefinition} {name : Identifier}
    {declaration : Declaration} (h : ownDeclaration? test name = some declaration) :
    name ∈ test.variableNames := by
  unfold ownDeclaration? at h
  split at h
  next found hfound =>
    have hname := List.find?_some hfound
    obtain rfl := of_decide_eq_true hname
    exact List.mem_append_left _ (List.mem_map_of_mem (List.mem_of_find?_eq_some hfound))
  next =>
    split at h
    next hname => exact List.mem_append_right _ (List.mem_singleton.2 hname)
    next => cases h

namespace TestDelivery

variable {α β : Type} {delivery : TestDelivery} {state left : TestState} {now : Timestamp}

/-- A session of the test that has all that operations look up. -/
structure Stocked (delivery : TestDelivery) (state : TestState) : Prop where
  /-- It is a session of the test. -/
  digest : state.digest = delivery.digest
  /-- Its plan is that of the test. -/
  plan : TestPlan.build delivery.definition = .ok state.plan
  /-- Every item has a session that has a value for every variable. -/
  items : ∀ place, delivery.definition.RefersTo place → ∃ item session,
    delivery.itemDelivery place = .ok item ∧ state.items.get? place.ref = some session ∧
      item.Stocked session
  /-- Every variable of the test as a whole has a value. -/
  outcomes : ∀ name ∈ delivery.definition.variableNames, state.outcomes.contains name = true
  /-- The parts stand in the plan. -/
  parts : ∀ node ∈ state.parts.map (·.node), node ∈ state.plan.testParts
  /-- The part that is under way stands in the plan. -/
  currentPart : ∀ index, state.currentPart = some index → index ∈ state.plan.testParts
  /-- The item that is presented stands in the plan. -/
  currentItem : ∀ index, state.currentItem = some index → index ∈ state.plan.items

/-- An operation keeps a session stocked and does not fail with a logic error. -/
def Maintains (delivery : TestDelivery) (operation : TestAction α) (state : TestState) : Prop :=
  operation.Ensures state (fun _ left => delivery.Stocked left)
    fun error left => error.isLogic = false ∧ delivery.Stocked left

theorem Maintains.bind {operation : TestAction α} {next : α → TestAction β}
    (h : delivery.Maintains operation state)
    (hnext : ∀ a left, delivery.Stocked left → delivery.Maintains (next a) left) :
    delivery.Maintains (operation >>= next) state :=
  Ensures.bind h hnext fun _ _ herror => herror

/-- An operation keeps a session stocked and does not fail with a logic error, and `good` holds of
its result. -/
def Reports (delivery : TestDelivery) (good : α → Prop) (operation : TestAction α)
    (state : TestState) : Prop :=
  operation.Ensures state (fun a left => delivery.Stocked left ∧ good a)
    fun error left => error.isLogic = false ∧ delivery.Stocked left

theorem Reports.maintains {good : α → Prop} {operation : TestAction α}
    (h : delivery.Reports good operation state) : delivery.Maintains operation state :=
  Ensures.mono h (fun _ _ hleft => hleft.1) fun _ _ herror => herror

theorem Reports.bind {good : α → Prop} {good' : β → Prop} {operation : TestAction α}
    {next : α → TestAction β} (h : delivery.Reports good operation state)
    (hnext : ∀ a left, delivery.Stocked left → good a → delivery.Reports good' (next a) left) :
    delivery.Reports good' (operation >>= next) state :=
  Ensures.bind h (fun a left hleft => hnext a left hleft.1 hleft.2) fun _ _ herror => herror

theorem Maintains.bind_reports {good : β → Prop} {operation : TestAction α}
    {next : α → TestAction β} (h : delivery.Maintains operation state)
    (hnext : ∀ a left, delivery.Stocked left → delivery.Reports good (next a) left) :
    delivery.Reports good (operation >>= next) state :=
  Ensures.bind h hnext fun _ _ herror => herror

section bind

variable {done : β → TestState → Prop} {failed : TestError → TestState → Prop}

theorem ensures_get_bind {next : TestState → TestAction β}
    (h : (next state).Ensures state done failed) : (get >>= next).Ensures state done failed := by
  rw [ensures_bind, ensures_get]
  exact h

/-- What is looked up in a session is found, if the look-up does not fail. -/
theorem ensures_lookUp_bind {result : Except LogicError α} {next : α → TestAction β}
    (h : Yields result (fun a => (next a).Ensures state done failed) fun _ => False) :
    (TestAction.lookUp result >>= next).Ensures state done failed := by
  obtain ⟨a, rfl, hnext⟩ := h.exists_ok
  rw [ensures_bind]
  exact hnext

end bind

/-! ### What expressions find -/

theorem itemDelivery_eq {place : ItemPlace} {definition : ItemDefinition} {digest : Digest}
    (hdefinition : delivery.definition.item? place.item = some definition)
    (hdigest : delivery.itemDigests.get? place.item = some digest) :
    delivery.itemDelivery place = .ok ⟨definition, delivery.engine, digest⟩ := by
  rw [itemDelivery, hdefinition, hdigest]

/-- Items that are the same have the same delivery. -/
theorem itemDelivery_congr {place other : ItemPlace} {item : ItemDelivery}
    (h : delivery.itemDelivery place = .ok item) (hsame : other.item = place.item) :
    delivery.itemDelivery other = .ok item := by
  obtain ⟨definition, digest, hdefinition, hdigest, rfl⟩ := exists_of_itemDelivery h
  rw [← hsame] at hdefinition hdigest
  exact itemDelivery_eq hdefinition hdigest

/-- The rules of the items of a well-formed test make sense outside of tests. -/
theorem standsAlone_of_itemDelivery (hdefinition : delivery.definition.WellFormed)
    {place : ItemPlace} {item : ItemDelivery} (hitem : delivery.itemDelivery place = .ok item) :
    item.definition.StandsAlone := by
  obtain ⟨definition, _, hheld, -, rfl⟩ := exists_of_itemDelivery hitem
  exact hdefinition.items definition (List.mem_of_find?_eq_some hheld)

/-- Of what conditions report `quiet` holds, if evaluating them keeps it and so does the record of
their faults. -/
theorem yields_conditionsHold_of {quiet : NotificationLog → Prop} {fails : Fault → Prop}
    {conditions : List Expression}
    (hkeeps : ∀ condition ∈ conditions, Evaluation.Keeps (fun environment => quiet environment.log)
      fails (condition.tryEvaluate delivery.engine (state.view delivery.definition)))
    (hrecord : ∀ {log source error}, quiet log → fails (.runtime error) →
      quiet (log.record ⟨.error, .evaluation, source, .fault error⟩))
    (hlogic : ∀ error, ¬fails (.logic error)) (hempty : quiet delivery.newLog) :
    Yields (delivery.conditionsHold state conditions) (fun answer => quiet answer.2)
      fun _ => False := by
  have hall : ∀ environment : Environment, quiet environment.log →
      (allTrue delivery.engine (state.view delivery.definition) conditions).Ensures environment
        (fun _ left => quiet left.log) fun _ _ => False := by
    induction conditions with
    | nil => exact fun _ h => h
    | cons first rest ih =>
      obtain ⟨hfirst, hrest⟩ := List.forall_mem_cons.1 hkeeps
      intro environment henvironment
      rw [allTrue]
      refine (Expression.ensures_evaluate hfirst hrecord henvironment).bind (fun _ left hleft => ?_)
        fun error _ herror => hlogic error herror.2
      rw [ensures_ite]
      exact ⟨fun _ => ih hrest left hleft, fun _ => hleft⟩
  obtain ⟨holds, environment, hrun, hquiet⟩ := (hall
    (.forPass state.seed state.passes delivery.engine.options.level) hempty).exists_ok
  rw [conditionsHold, hrun]
  exact hquiet

section stocked

variable (h : delivery.Stocked state)

include h

/-- All sessions of a test have the same plan. -/
theorem Stocked.plan_eq (hleft : delivery.Stocked left) : left.plan = state.plan :=
  Except.ok.inj (hleft.plan.symm.trans h.plan)

/-- The items of the plan stand at places that belong to references. -/
theorem Stocked.exists_place {index : Nat} (hindex : index ∈ state.plan.items) :
    ∃ place, state.plan.place index = .ok place ∧ delivery.definition.RefersTo place := by
  obtain ⟨place, hplace⟩ := (TestPlan.mem_items h.plan).1 hindex
  exact ⟨place, hplace, TestPlan.names_mem_of_place h.plan hplace⟩

/-- What a qualified name means is an item with a session that has a value for every variable. -/
theorem Stocked.exists_of_qualified? {name inner : Identifier} {ref : ItemRef}
    {definition : ItemDefinition} {session : ItemState}
    (hname : state.qualified? delivery.definition name = some (ref, definition, session, inner)) :
    ∃ item : ItemDelivery, item.definition = definition ∧ item.Stocked session := by
  simp only [TestState.qualified?, Option.bind_eq_bind, Option.bind_eq_some_iff,
    Option.some.injEq, Prod.mk.injEq] at hname
  obtain ⟨_, -, found, href, _, hdefinition, _, hsession, rfl, rfl, rfl, -⟩ := hname
  have hrefers : delivery.definition.RefersTo ⟨found.identifier, found.item, .default⟩ :=
    List.mem_map_of_mem (List.mem_of_find?_eq_some href)
  obtain ⟨item, _, hitem, hget, hstocked⟩ := h.items _ hrefers
  obtain ⟨_, _, hheld, -, rfl⟩ := exists_of_itemDelivery hitem
  obtain rfl := Option.some.inj (hget.symm.trans hsession)
  exact ⟨_, Option.some.inj (hheld.symm.trans hdefinition), hstocked⟩

/-- Reading a variable of an item fails at most because it is not declared. -/
theorem Stocked.failsUndeclared_readQualified (name : Identifier)
    {read : ItemDefinition → ItemState → Identifier → Except LogicError Value}
    (hread : ∀ (item : ItemDelivery) session inner, item.Stocked session →
      FailsUndeclared (read item.definition session inner)) :
    FailsUndeclared (state.readQualified delivery.definition name read) := by
  unfold TestState.readQualified
  split
  next hname =>
    obtain ⟨item, rfl, hstocked⟩ := h.exists_of_qualified? hname
    exact hread item _ _ hstocked
  next => exact ⟨name, rfl⟩

/-- Every variable of a stocked session can be read. -/
theorem Stocked.reads : (state.view delivery.definition).Reads where
  value name := by
    change FailsUndeclared (state.read delivery.definition name)
    unfold TestState.read
    split
    next hname =>
      have hvalue := h.outcomes name (TestState.mem_variableNames_of_ownDeclaration? hname)
      obtain ⟨value, hvalue⟩ := Option.isSome_iff_exists.1 hvalue
      rw [Store.value, hvalue]
      trivial
    next =>
      exact h.failsUndeclared_readQualified name fun _ _ inner hitem => hitem.reads.value inner
  defaultValue name := by
    change FailsUndeclared (state.readDefault delivery.definition name)
    unfold TestState.readDefault
    split
    next => trivial
    next =>
      exact h.failsUndeclared_readQualified name fun _ _ inner hitem =>
        hitem.reads.defaultValue inner
  correctValue name := by
    change FailsUndeclared (state.readCorrect delivery.definition name)
    unfold TestState.readCorrect
    split
    next => trivial
    next =>
      exact h.failsUndeclared_readQualified name fun _ _ inner hitem =>
        hitem.reads.correctValue inner

/-- Every item of the plan is found, and the values of its variables are. -/
theorem Stocked.yields_itemAt {index : Nat} (hindex : index ∈ state.plan.items) :
    Yields (state.itemAt delivery.definition index)
      (fun found => ∀ item ∈ found, ∀ name, FailsUndeclared (item.state.read item.definition name))
      fun _ => False := by
  obtain ⟨place, hplace, hrefers⟩ := h.exists_place hindex
  obtain ⟨node, hnode, hkind⟩ := TestPlan.place_eq_ok_iff.1 hplace
  have hname := TestPlan.identifier?_of_place hplace
  rw [hnode] at hname
  -- The reference is looked up by its name, and the session by the name that is found.
  obtain ⟨written, hwritten, hnames⟩ := List.mem_map.1 hrefers
  have href : (delivery.definition.itemRef? place.ref).isSome = true :=
    List.find?_isSome.2 ⟨written, hwritten, decide_eq_true (congrArg Prod.fst hnames)⟩
  obtain ⟨ref, href⟩ := Option.isSome_iff_exists.1 href
  have hidentifier := List.find?_some href
  rw [decide_eq_true_eq] at hidentifier
  have hrefers : delivery.definition.RefersTo ⟨ref.identifier, ref.item, .default⟩ :=
    List.mem_map_of_mem (List.mem_of_find?_eq_some href)
  obtain ⟨item, session, hitem, hsession, hstocked⟩ := h.items _ hrefers
  obtain ⟨_, _, hheld, -, rfl⟩ := exists_of_itemDelivery hitem
  change node.identifier? = some place.ref at hname
  rw [TestState.itemAt, TestPlan.node, hnode, yields_bind, yields_ok, hname]
  dsimp only
  rw [href]
  dsimp only
  rw [hheld, ← hidentifier, hsession]
  rintro _ ⟨⟩ name
  exact hstocked.reads.value name

/-- There are items to aggregate over in a stocked session. -/
theorem Stocked.aggregates : (state.view delivery.definition).Aggregates := by
  intro operation
  change Yields (state.testItems delivery.definition) _ _
  rw [TestState.testItems, yields_bind]
  refine (yields_mapM _ _).mono (fun found hfound => ?_) ?_
  · intro item hitem name
    obtain ⟨_, hmem, rfl⟩ := List.mem_filterMap.1 hitem
    obtain ⟨k, hk, hat⟩ := List.getElem_of_mem hmem
    obtain ⟨hlength, hall⟩ := List.forall₂_iff_get.1 hfound
    have hitemAt := h.yields_itemAt (List.getElem_mem (hlength ▸ hk))
    have hk := hall k (hlength ▸ hk) hk
    rw [List.get_eq_getElem, List.get_eq_getElem, hat] at hk
    rw [hk, yields_ok] at hitemAt
    exact hitemAt item rfl name
  · rintro error ⟨index, hindex, herror⟩
    have hitemAt := h.yields_itemAt hindex
    rw [herror] at hitemAt
    exact hitemAt

/-- Every expression is evaluated in a stocked session without a logic error. -/
theorem Stocked.noLogic_tryEvaluate (expression : Expression) :
    Evaluation.NoLogic (expression.tryEvaluate delivery.engine (state.view delivery.definition)) :=
  expression.noLogic_tryEvaluate delivery.engine h.reads fun _ _ _ => h.aggregates

/-- Conditions are looked at without a logic error. -/
theorem Stocked.yields_conditionsHold (conditions : List Expression) :
    Yields (delivery.conditionsHold state conditions) (fun _ => True) fun _ => False :=
  @yields_conditionsHold_of _ _ (fun _ => True) _ _ (fun _ _ => h.noLogic_tryEvaluate _)
    (fun _ _ => trivial) (fun error hlogic => hlogic error rfl) trivial

/-! ### Time and outcomes -/

theorem Stocked.check : delivery.Maintains delivery.check state := by
  rw [Maintains, TestDelivery.check, ensures_bind, ensures_get, ensures_ite]
  exact ⟨fun _ => h, fun hne => absurd h.digest hne⟩

theorem Stocked.requireInteracting : delivery.Maintains delivery.requireInteracting state := by
  refine h.check.bind fun _ left hleft => ensures_get_bind ?_
  split
  next => exact ⟨rfl, hleft⟩
  next => exact ⟨rfl, hleft⟩
  next => exact hleft

/-- A value may be put in for a variable of the test as a whole. -/
theorem Stocked.setOutcome {name : Identifier} (hname : name ∈ delivery.definition.variableNames)
    (value : Value) :
    ∃ outcomes, state.outcomes.set name value = .ok outcomes ∧
      delivery.Stocked { state with outcomes } := by
  refine ⟨_, Store.set_eq_ok_iff.2 ⟨h.outcomes name hname, rfl⟩, ?_⟩
  refine ⟨h.digest, h.plan, h.items, fun other hother => ?_, h.parts, h.currentPart, h.currentItem⟩
  exact (SortedMap.contains_insert _ _ _ _).2 (.inr (h.outcomes other hother))

theorem Stocked.setOutcomes {bindings : List (Identifier × Value)}
    (hnames : ∀ binding ∈ bindings, binding.1 ∈ delivery.definition.variableNames) :
    delivery.Maintains (TestDelivery.setOutcomes bindings) state := by
  induction bindings generalizing state with
  | nil => exact h
  | cons binding rest ih =>
    obtain ⟨outcomes, houtcomes, hset⟩ := h.setOutcome (hnames binding List.mem_cons_self) binding.2
    rw [TestDelivery.setOutcomes]
    refine ensures_get_bind (ensures_lookUp_bind ?_)
    rw [houtcomes]
    exact ih hset fun other hother => hnames other (List.mem_cons_of_mem _ hother)

theorem Stocked.resetOutcomes : delivery.Maintains delivery.resetOutcomes state := by
  refine h.setOutcomes ?_
  rintro _ hbinding
  obtain ⟨declaration, hdeclaration, rfl⟩ := List.mem_map.1 hbinding
  exact List.mem_append_left _ (List.mem_map_of_mem hdeclaration)

/-- Counting time maintains a session. -/
theorem Stocked.touch : delivery.Maintains (TestDelivery.touch now) state := by
  have hcounted : ∀ {state : TestState}, delivery.Stocked state →
      delivery.Stocked { state with lastEvent := some now } := fun h =>
    ⟨h.digest, h.plan, h.items, h.outcomes, h.parts, h.currentPart, h.currentItem⟩
  refine ensures_get_bind ?_
  dsimp only
  split
  next elapsed _ =>
    rw [ensures_ite]
    refine ⟨fun _ => ensures_lookUp_bind ?_, fun _ => hcounted h⟩
    have hduration : BuiltIn.duration.identifier ∈ delivery.definition.variableNames :=
      List.mem_append_right _ List.mem_cons_self
    obtain ⟨outcomes, houtcomes, hset⟩ := h.setOutcome hduration _
    rw [houtcomes]
    exact hcounted hset
  next => exact hcounted h

end stocked

/-- Rules of a test keep a session stocked, and fail with no logic error. -/
theorem stage_keeps_stocked (delivery : TestDelivery) :
    (TestState.stage delivery.definition).Keeps delivery.engine (fun _ => True) delivery.Stocked
      fun _ => False where
  evaluate _ hsession :=
    Expression.raisesOnly_false delivery.engine hsession.reads fun _ _ _ => hsession.aggregates
  assign {session _ name declaration _ value} hsession hname _ := by
    obtain ⟨found, hfound, rfl⟩ := Option.map_eq_some_iff.1 hname
    have hdeclared := @TestState.mem_variableNames_of_ownDeclaration? delivery.definition name
      (.outcome found) (by rw [TestState.ownDeclaration?, hfound])
    obtain ⟨outcomes, houtcomes, hset⟩ := hsession.setOutcome hdeclared value
    change Yields (TestState.assign delivery.definition name value session) _ _
    simp only [TestState.assign, hfound, houtcomes, yields_bind, yields_ok]
    exact hset
  setCorrect _ _ hover _ := nomatch hover
  setDefault _ _ hover _ := nomatch hover

/-! ### What requests report -/

/-- Of all that the parts of requests report `quiet` holds: of the reports of the sessions of items,
of outcome processing and of conditions, and of all that is put together from them. -/
structure ReportsOnly (delivery : TestDelivery) (quiet : NotificationLog → Prop) : Prop where
  /-- Operations on the sessions of items report no more. -/
  items : ∀ {place item}, delivery.itemDelivery place = .ok item →
    item.Processes item.Stocked quiet
  /-- Outcome processing reports no more. -/
  outcomes : ∀ {state}, delivery.Stocked state → ∀ seed pass,
    ((Rule.execute delivery.engine (TestState.stage delivery.definition)
      delivery.definition.outcomeProcessing).on
      (.forPass seed pass delivery.engine.options.level)).Ensures state
      (fun answer left => delivery.Stocked left ∧ quiet answer.2) fun _ _ => False
  /-- Conditions of the test report no more. -/
  conditions : ∀ {state conditions}, delivery.Stocked state →
    (∀ condition ∈ conditions, condition ∈ delivery.definition.conditions) →
    Yields (delivery.conditionsHold state conditions) (fun answer => quiet answer.2) fun _ => False
  /-- Nothing is reported. -/
  empty : quiet delivery.newLog
  /-- A report may be appended to another. -/
  extend : ∀ {log notes}, quiet log → quiet notes → quiet (log.extend notes)
  /-- It may be reported that something is passed over. -/
  note : ∀ {log level source message}, quiet log →
    message ∈ [Message.partSkipped, .itemSkipped, .badBranchTarget] →
    quiet (log.record ⟨level, .lifecycle, source, message⟩)

/-- Whatever is reported, no part of a request to a well-formed test fails. -/
theorem reportsOnly_true (hdefinition : delivery.definition.WellFormed) :
    delivery.ReportsOnly fun _ => True where
  items hitem := ItemDelivery.processes_stocked (standsAlone_of_itemDelivery hdefinition hitem)
  outcomes hstate _ _ := by
    refine (Execution.ensures_on (Rule.ensures_execute (stage_keeps_stocked delivery) ?_
      hstate)).mono (fun _ _ hleft => ⟨hleft, trivial⟩) fun _ _ herror => herror
    intro _ _ _ _
    trivial
  conditions hstate _ := hstate.yields_conditionsHold _
  empty := trivial
  extend _ _ := trivial
  note _ _ := trivial

section stocked

variable {quiet : NotificationLog → Prop} (h : delivery.Stocked state)

include h

/-- Outcome processing maintains a session. -/
theorem Stocked.processOutcomes (hreports : delivery.ReportsOnly quiet) :
    delivery.Reports quiet delivery.processOutcomes state := by
  refine h.resetOutcomes.bind_reports fun _ left hleft => ensures_get_bind ?_
  rw [ensures_bind, ensures_set, ensures_bind, TestAction.ensures_ofLogic]
  have hcounted : delivery.Stocked { left with passes := left.passes + 1 } :=
    ⟨hleft.digest, hleft.plan, hleft.items, hleft.outcomes, hleft.parts, hleft.currentPart,
      hleft.currentItem⟩
  refine (hreports.outcomes hcounted _ _).mono ?_ fun _ _ herror => herror.elim
  rintro ⟨_, log⟩ _ ⟨hran, hlog⟩
  refine ⟨?_, hlog⟩
  exact ⟨hran.digest, hran.plan, hran.items, hran.outcomes, hran.parts, hran.currentPart,
    hran.currentItem⟩

/-! ### The sessions of items -/

section bind

variable {done : β → TestState → Prop} {failed : TestError → TestState → Prop}

omit h in
/-- A session of an item is found where there is one. -/
theorem ensures_session_bind {place : ItemPlace} {item : ItemDelivery} {session : ItemState}
    {next : ItemState → TestAction β} (hitem : delivery.itemDelivery place = .ok item)
    (hsession : state.items.get? place.ref = some session)
    (hnext : (next session).Ensures state done failed) :
    (delivery.session place >>= next).Ensures state done failed := by
  rw [ensures_bind, TestDelivery.session, hitem, ensures_bind]
  change (get >>= _ : TestAction ItemState).Ensures state _ _
  rw [ensures_bind, ensures_get, hsession]
  exact hnext

/-- The session of an item is found. -/
theorem Stocked.session_bind {place : ItemPlace} {next : ItemState → TestAction β}
    (hplace : delivery.definition.RefersTo place)
    (hnext : ∀ session, (next session).Ensures state done failed) :
    (delivery.session place >>= next).Ensures state done failed := by
  obtain ⟨item, session, hitem, hsession, -⟩ := h.items place hplace
  exact ensures_session_bind hitem hsession (hnext session)

/-- The place and the session of an item of the plan are found. -/
theorem Stocked.visit {index : Nat} {next : ItemPlace → ItemState → TestAction β}
    (hindex : index ∈ state.plan.items)
    (hnext : ∀ place, delivery.definition.RefersTo place → ∀ session,
      (next place session).Ensures state done failed) :
    (do
      let place ← TestAction.lookUp ((← get).plan.place index)
      let session ← delivery.session place
      next place session : TestAction β).Ensures state done failed := by
  obtain ⟨place, hplace, hrefers⟩ := h.exists_place hindex
  refine ensures_get_bind (ensures_lookUp_bind ?_)
  rw [hplace, yields_ok]
  exact h.session_bind hrefers (hnext place hrefers)

end bind

section WellFormed

variable (hdefinition : delivery.definition.WellFormed)

include hdefinition

/-- The session of an item may be replaced by another of the item. -/
theorem Stocked.put {place : ItemPlace} {item : ItemDelivery} {changed : ItemState}
    (hplace : delivery.definition.RefersTo place) (hitem : delivery.itemDelivery place = .ok item)
    (hchanged : item.Stocked changed) :
    delivery.Stocked { state with items := state.items.insert place.ref changed } := by
  refine ⟨h.digest, h.plan, fun other hother => ?_, h.outcomes, h.parts, h.currentPart,
    h.currentItem⟩
  by_cases href : other.ref = place.ref
  · -- No other item stands under the name of the reference.
    have hsame : other.item = place.item := by
      obtain ⟨ref, hmem, hnames⟩ := List.mem_map.1 hplace
      obtain ⟨ref', hmem', hnames'⟩ := List.mem_map.1 hother
      have hidentifier : ref'.identifier = ref.identifier := by
        rw [show ref'.identifier = other.ref from congrArg Prod.fst hnames', href]
        exact (congrArg Prod.fst hnames).symm
      obtain rfl := List.inj_on_of_nodup_map hdefinition.names hmem' hmem hidentifier
      exact congrArg Prod.snd (hnames'.symm.trans hnames)
    refine ⟨item, changed, itemDelivery_congr hitem hsame, ?_, hchanged⟩
    rw [href]
    exact SortedMap.get?_insert_self _ _ _
  · obtain ⟨found, session, hfound, hsession, hstocked⟩ := h.items other hother
    refine ⟨found, session, hfound, ?_, hstocked⟩
    rw [← hsession]
    exact SortedMap.get?_insert_of_ne _ href _

/-- An operation that keeps the sessions of an item stocked maintains that of the test. -/
theorem Stocked.onItem {good : α → Prop} {place : ItemPlace}
    {operation : ItemDelivery → ItemAction α}
    (hplace : delivery.definition.RefersTo place)
    (hoperation : ∀ item session, delivery.itemDelivery place = .ok item → item.Stocked session →
      (operation item).Ensures session (fun a left => item.Stocked left ∧ good a)
        fun error left => error.isLogic = false ∧ item.Stocked left) :
    delivery.Reports good (delivery.onItem place operation) state := by
  obtain ⟨item, session, hitem, hsession, hstocked⟩ := h.items place hplace
  have hkeeps := hoperation item session hitem hstocked
  refine ensures_lookUp_bind ?_
  rw [hitem, yields_ok]
  refine ensures_session_bind hitem hsession ?_
  -- The session is put back in any case, also where the operation failed.
  rcases hrun : (operation item).run.run session with ⟨error | a, changed⟩
  · obtain ⟨herror, hchanged⟩ := hkeeps.error hrun
    exact ⟨(TestError.isLogic_ofItem _ _).trans herror, h.put hdefinition hplace hitem hchanged⟩
  · obtain ⟨hchanged, hgood⟩ := hkeeps.ok hrun
    exact ⟨h.put hdefinition hplace hitem hchanged, hgood⟩

/-- An operation on the session of an item that reports nothing maintains that of the test. -/
theorem Stocked.onItem_maintains {place : ItemPlace} {operation : ItemDelivery → ItemAction α}
    (hplace : delivery.definition.RefersTo place)
    (hoperation : ∀ (item : ItemDelivery) session, item.Stocked session →
      ItemAction.Keeps item.Stocked (operation item) session) :
    delivery.Maintains (delivery.onItem place operation) state := by
  have hreports : delivery.Reports (fun _ => True) (delivery.onItem place operation) state := by
    refine h.onItem hdefinition hplace fun item session _ hsession => ?_
    exact Ensures.mono (hoperation item session hsession) (fun _ _ hleft => ⟨hleft, trivial⟩)
      fun _ _ herror => herror
  exact hreports.maintains

/-- Stopping the clock of the current item maintains a session. -/
theorem Stocked.suspendCurrent : delivery.Maintains (delivery.suspendCurrent now) state := by
  refine ensures_get_bind ?_
  split
  next => exact h
  next current hcurrent =>
    obtain ⟨place, hplace, hrefers⟩ := h.exists_place (h.currentItem current hcurrent)
    refine ensures_lookUp_bind ?_
    rw [hplace, yields_ok]
    refine h.session_bind hrefers fun session => ?_
    rw [ensures_ite]
    refine ⟨fun _ => ?_, fun _ => h⟩
    exact h.onItem_maintains hdefinition hrefers fun item _ hsession =>
      item.upholds_stocked.suspend hsession now

/-- Presenting an item of the plan maintains a session. -/
theorem Stocked.enterItem {index : Nat} (hindex : index ∈ state.plan.items) :
    delivery.Maintains (delivery.enterItem index now) state := by
  obtain ⟨place, hplace, hrefers⟩ := h.exists_place hindex
  refine ensures_get_bind (ensures_lookUp_bind ?_)
  rw [hplace, yields_ok]
  have hentered := h.onItem_maintains hdefinition hrefers fun item _ hsession =>
    item.upholds_stocked.enter hsession now
  refine hentered.bind fun _ left hleft => ?_
  refine ⟨hleft.digest, hleft.plan, hleft.items, hleft.outcomes, hleft.parts, hleft.currentPart, ?_⟩
  rintro _ ⟨⟩
  rw [h.plan_eq hleft]
  exact hindex

/-- Closing items of the plan maintains a session. -/
theorem Stocked.closeItems {indices : List Nat}
    (hindices : ∀ index ∈ indices, index ∈ state.plan.items) :
    delivery.Maintains (delivery.closeItems now indices) state := by
  induction indices generalizing state with
  | nil => exact h
  | cons index rest ih =>
    obtain ⟨hfirst, hrest⟩ := List.forall_mem_cons.1 hindices
    rw [TestDelivery.closeItems]
    refine h.visit hfirst fun place hrefers session => ?_
    have hmore : ∀ {left}, delivery.Stocked left →
        delivery.Maintains (delivery.closeItems now rest) left := fun hleft =>
      ih hleft (by rw [h.plan_eq hleft]; exact hrest)
    dsimp only
    rw [ensures_ite]
    refine ⟨fun _ => ?_, fun _ => hmore h⟩
    have hended := h.onItem_maintains hdefinition hrefers fun item _ hsession =>
      item.upholds_stocked.endSession hsession now
    exact hended.bind fun _ _ hleft => hmore hleft

variable (hreports : delivery.ReportsOnly quiet)

include hreports

/-- Template processing of items of the plan maintains a session. -/
theorem Stocked.prepareItems {indices : List Nat}
    (hindices : ∀ index ∈ indices, index ∈ state.plan.items) {log : NotificationLog}
    (hlog : quiet log) : delivery.Reports quiet (delivery.prepareItems indices log) state := by
  induction indices generalizing state log with
  | nil => exact ⟨h, hlog⟩
  | cons index rest ih =>
    obtain ⟨hfirst, hrest⟩ := List.forall_mem_cons.1 hindices
    rw [TestDelivery.prepareItems]
    refine h.visit hfirst fun place hrefers session => ?_
    rw [ensures_ite]
    refine ⟨fun _ => ih h hrest hlog, fun _ => ?_⟩
    have hprepared := h.onItem hdefinition hrefers fun _ _ hitem hsession =>
      (hreports.items hitem).processTemplate hsession
    refine hprepared.bind fun notes _ hleft hnotes => ?_
    exact ih hleft (by rw [h.plan_eq hleft]; exact hrest) (hreports.extend hlog hnotes)

/-- Scoring items of the plan maintains a session. -/
theorem Stocked.scoreItems (mode : SubmissionMode) {indices : List Nat}
    (hindices : ∀ index ∈ indices, index ∈ state.plan.items) {log : NotificationLog}
    (hlog : quiet log) :
    delivery.Reports quiet (delivery.scoreItems now mode indices log) state := by
  induction indices generalizing state log with
  | nil => exact ⟨h, hlog⟩
  | cons index rest ih =>
    obtain ⟨hfirst, hrest⟩ := List.forall_mem_cons.1 hindices
    rw [TestDelivery.scoreItems]
    refine h.visit hfirst fun place hrefers session => ?_
    dsimp only
    rw [ensures_ite]
    refine ⟨fun _ => ?_, fun _ => ih h hrest hlog⟩
    have hscored := h.onItem hdefinition hrefers fun _ _ hitem hsession =>
      (hreports.items hitem).processResponse hsession 0 now
    refine hscored.bind fun notes _ hleft hnotes => ?_
    exact ih hleft (by rw [h.plan_eq hleft]; exact hrest) (hreports.extend hlog hnotes)

end WellFormed

end stocked

end TestDelivery

end Assessment
