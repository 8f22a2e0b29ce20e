import Assessment.Proofs.Item.Typing
import Assessment.Proofs.Misuse.Validation
import Assessment.Proofs.Test.Safety

/-!
# Tests that misuse nothing

Rules and conditions of a test refer to its own outcome variables and, by qualified names, to the
variables of its items. A session looks for a variable of the test before it takes a name apart,
where validation lists both; on names that may mean one variable only they agree. In sessions of a
valid test therefore no variable and no operator is ever misused, as long as all types are ones that
values can have: to refer to a variable of another type is a mere warning.

## Main definitions

- `TestDefinition.SignaturesValid`: all types of variables are ones that values can have.
- `TestDelivery.MisusesNothing`: nothing that runs rules or looks at conditions reports a misuse.

## Main results

- `TestDelivery.Stocked.agrees`: sessions of tests find what validation does.
- `TestDelivery.misusesNothing_of_reachable`: nothing is misused in any session of a valid test.
-/

namespace Assessment

open Action Findings

/-! ### Names in tests -/

namespace TestDefinition

variable {test : TestDefinition} {registry : Registry} {name : Identifier}
  {declaration : Declaration}

/-- All declared variables of a test and of its items have types that values can have. -/
structure SignaturesValid (test : TestDefinition) : Prop where
  /-- Those of the test as a whole do. -/
  outcomes : ∀ declaration ∈ test.outcomes, declaration.signature.isValid = true
  /-- Those of its items do. -/
  items : ∀ item ∈ test.items, item.SignaturesValid

/-- A qualified name may mean the variables of an item of the test. -/
theorem exists_of_mem_qualifiedCandidates
    (h : declaration ∈ Subject.qualifiedCandidates test name) :
    ∃ refName inner ref item, name.split? = some (refName, inner) ∧
      test.itemRef? refName = some ref ∧ test.item? ref.item = some item ∧
      Subject.qualifiedCandidates test name = item.resolveAll inner.text := by
  unfold Subject.qualifiedCandidates at h ⊢
  dsimp only at h ⊢
  split at h
  next item inner hitem =>
    simp only [Option.bind_eq_bind, Option.bind_eq_some_iff, Option.some.injEq,
      Prod.mk.injEq] at hitem
    obtain ⟨⟨refName, _⟩, hsplit, ref, href, _, hheld, rfl, rfl⟩ := hitem
    exact ⟨refName, _, ref, _, hsplit, href, hheld, rfl⟩
  next => cases h

theorem usable_ofTest (h : test.SignaturesValid) : (Subject.ofTest test).Usable := by
  intro name declaration hdeclaration
  obtain hown | hqualified := List.mem_append.1 hdeclaration
  · obtain houtcome | hduration := List.mem_append.1 hown
    · obtain ⟨outcome, hmem, rfl⟩ := List.mem_map.1 houtcome
      exact h.outcomes outcome (List.mem_filter.1 hmem).1
    · split at hduration
      next =>
        rw [List.mem_singleton.1 hduration]
        rfl
      next => cases hduration
  · obtain ⟨_, inner, ref, item, -, -, hitem, hall⟩ := exists_of_mem_qualifiedCandidates hqualified
    rw [hall] at hqualified
    exact ItemDefinition.usable_ofItem (h.items item (List.mem_of_find?_eq_some hitem)) inner
      declaration hqualified

/-- A variable of the test as a whole is one that its name may mean. -/
theorem mem_candidates_of_ownDeclaration?
    (h : TestState.ownDeclaration? test name = some declaration) :
    declaration ∈ (Subject.ofTest test).candidates name := by
  refine List.mem_append_left _ ?_
  unfold TestState.ownDeclaration? at h
  split at h
  next outcome houtcome =>
    cases h
    refine List.mem_append_left _ (List.mem_map_of_mem (List.mem_filter.2 ⟨?_, ?_⟩))
    · exact List.mem_of_find?_eq_some houtcome
    · have hname := List.find?_some houtcome
      exact hname
  next =>
    split at h
    next hname =>
      cases h
      rw [if_pos hname]
      exact List.mem_append_right _ (List.mem_singleton_self _)
    next => cases h

/-- A name that means no variable of the test as a whole may mean what it means as a qualified
name. -/
theorem candidates_of_ownDeclaration? (h : TestState.ownDeclaration? test name = none) :
    (Subject.ofTest test).candidates name = Subject.qualifiedCandidates test name := by
  unfold TestState.ownDeclaration? at h
  split at h
  next => cases h
  next hnone =>
    split at h
    next => cases h
    next hname =>
      have hfilter : test.outcomes.filter (·.identifier = name) = [] :=
        List.filter_eq_nil_iff.2 fun outcome houtcome => List.find?_eq_none.1 hnone outcome houtcome
      rw [Subject.candidates, hfilter, if_neg hname]
      rfl

/-- A name that may mean one variable only means that variable, as one of the test as a whole or
else as one of an item. -/
theorem of_candidates (h : (Subject.ofTest test).candidates name = [declaration]) :
    TestState.ownDeclaration? test name = some declaration ∨
      TestState.ownDeclaration? test name = none ∧ ∃ refName inner ref item,
        name.split? = some (refName, inner) ∧ test.itemRef? refName = some ref ∧
        test.item? ref.item = some item ∧ item.resolve? inner.text = some declaration := by
  cases hown : TestState.ownDeclaration? test name with
  | some found =>
    have hmem := mem_candidates_of_ownDeclaration? hown
    rw [h] at hmem
    rw [List.mem_singleton.1 hmem]
    exact .inl rfl
  | none =>
    rw [candidates_of_ownDeclaration? hown] at h
    obtain ⟨refName, inner, ref, item, hsplit, href, hitem, hall⟩ :=
      exists_of_mem_qualifiedCandidates (h ▸ List.mem_singleton_self declaration)
    rw [hall] at h
    exact .inr ⟨rfl, refName, inner, ref, item, hsplit, href, hitem,
      ItemDefinition.resolve?_of_resolveAll h⟩

/-- The conditions of a test without errors have none. -/
theorem exists_errors_of_mem_conditions (h : (test.validate registry).errors = [])
    {condition : Expression} (hcondition : condition ∈ test.conditions) :
    ∃ source, ((Subject.ofTest test).checkExpression registry source condition).errors = [] := by
  obtain ⟨-, -, -, hrefs, hparts, -, -⟩ := errors_validate_eq_nil.1 h
  obtain hpart | href := List.mem_append.1 hcondition
  · obtain ⟨part, hmem, hcondition⟩ := List.mem_flatMap.1 hpart
    obtain ⟨position, hposition⟩ := List.getElem?_of_mem hmem
    have hentry := hparts (part, position) (List.mem_zipIdx_iff_getElem?.2 hposition)
    obtain ⟨hconditions, hbranches⟩ := errors_append_eq_nil.1 hentry
    obtain hcondition | hbranch := List.mem_append.1 hcondition
    · exact ⟨_, errors_flatMap_eq_nil.1 hconditions condition hcondition⟩
    · obtain ⟨rule, hrule, rfl⟩ := List.mem_map.1 hbranch
      exact ⟨_, (errors_append_eq_nil.1 (errors_flatMap_eq_nil.1 hbranches rule hrule)).1⟩
  · obtain ⟨ref, hmem, hcondition⟩ := List.mem_flatMap.1 href
    exact ⟨_, errors_flatMap_eq_nil.1 (hrefs ref hmem).2 condition hcondition⟩

end TestDefinition

/-! ### Sessions of tests -/

namespace TestDelivery

variable {delivery : TestDelivery} {state : TestState} {registry : Registry} {name : Identifier}
  {declaration : Declaration}

section stocked

variable (h : delivery.Stocked state)

include h

/-- Where a qualified name leads to an item, it leads to its session. -/
theorem Stocked.exists_qualified? {refName inner : Identifier} {ref : ItemRef}
    {item : ItemDefinition} (hsplit : name.split? = some (refName, inner))
    (href : delivery.definition.itemRef? refName = some ref)
    (hitem : delivery.definition.item? ref.item = some item) :
    ∃ session, state.qualified? delivery.definition name = some (ref, item, session, inner) := by
  have hrefers : delivery.definition.RefersTo ⟨ref.identifier, ref.item, .default⟩ :=
    List.mem_map_of_mem (List.mem_of_find?_eq_some href)
  obtain ⟨_, session, -, hsession, -⟩ := h.items _ hrefers
  refine ⟨session, ?_⟩
  simp only [TestState.qualified?, hsplit, href, hitem, hsession, Option.bind_eq_bind,
    Option.bind_some]

/-- What a session looks for among its own variables and then under qualified names, it finds under
a name that may mean one variable only. -/
theorem Stocked.findsDeclared
    (hone : (Subject.ofTest delivery.definition).candidates name = [declaration])
    {own : Declaration → Except LogicError Value}
    {read : ItemDefinition → ItemState → Identifier → Except LogicError Value}
    (hown : ∀ found, FindsDeclared (own found))
    (hread : ∀ {item : ItemDefinition} session {inner : Identifier},
      item.resolve? inner.text = some declaration → FindsDeclared (read item session inner)) :
    FindsDeclared (match TestState.ownDeclaration? delivery.definition name with
      | some found => own found
      | none => state.readQualified delivery.definition name read) := by
  obtain hfound | ⟨hnone, _, _, _, _, hsplit, href, hitem, hresolve⟩ :=
    TestDefinition.of_candidates hone
  · rw [hfound]
    exact hown declaration
  · obtain ⟨session, hqualified⟩ := h.exists_qualified? hsplit href hitem
    rw [hnone, TestState.readQualified, hqualified]
    exact hread session hresolve

/-- A session of a test finds what validation does. -/
theorem Stocked.agrees : (state.view delivery.definition).Agrees (.ofTest delivery.definition) where
  declaration {name _} hone := by
    change state.declaration? delivery.definition name = _
    obtain hfound | ⟨hnone, _, _, _, _, hsplit, href, hitem, hresolve⟩ :=
      TestDefinition.of_candidates hone
    · rw [TestState.declaration?, hfound]
    · obtain ⟨session, hqualified⟩ := h.exists_qualified? hsplit href hitem
      rw [TestState.declaration?, hnone, hqualified]
      exact hresolve
  value hone :=
    h.findsDeclared hone (fun _ => Store.findsDeclared_value _ _) fun _ =>
      ItemDefinition.findsDeclared_read
  defaultValue hone :=
    h.findsDeclared hone (fun _ => trivial) fun _ => ItemDefinition.findsDeclared_readDefault
  correctValue hone :=
    h.findsDeclared hone (fun _ => trivial) fun _ => ItemDefinition.findsDeclared_readCorrect

end stocked

/-- Rules of a test find what validation does, and are offered the outcome variables of the test as
a whole. -/
theorem agrees_stage (delivery : TestDelivery) :
    (TestState.stage delivery.definition).Agrees delivery.Stocked (.ofTest delivery.definition)
      .outcome where
  view hstate := hstate.agrees
  assignable {_ name declaration} hplace hone hserves := by
    change (delivery.definition.outcome? name).map .outcome = some declaration
    obtain hown | ⟨-, _, _, _, _, hsplit, -⟩ := TestDefinition.of_candidates hone
    · unfold TestState.ownDeclaration? at hown
      split at hown
      next found hfound =>
        rw [hfound]
        exact hown
      next =>
        -- The only other variable of the test as a whole is kept by the session itself.
        split at hown
        next =>
          cases hown
          cases hserves.maintained
        next => cases hown
    · rw [Subject.placeProblem?, if_neg (by decide), hsplit] at hplace
      cases hplace
  overrides {_ name} hplace hoverride := by
    unfold Subject.placeProblem? at hplace
    rw [if_neg (by decide), hoverride] at hplace
    split at hplace
    next => cases hplace
    next => cases hplace

/-! ### Valid tests -/

/-- In a session no variable and no operator is misused: neither a request nor any single part of
one reports it, and none of them fails with a logic error. -/
structure MisusesNothing (delivery : TestDelivery) (state : TestState) : Prop where
  /-- Requests report no misuse. -/
  requests : ∀ request, (delivery.reported request).Ensures state
    (fun log _ => log.ReportsNoMisuse) fun error _ => error.isLogic = false
  /-- Outcome processing reports none. -/
  outcomes : delivery.processOutcomes.Ensures state
    (fun log _ => log.ReportsNoMisuse) fun error _ => error.isLogic = false
  /-- The conditions of parts, of items and of branches report none. -/
  conditions : ∀ condition ∈ delivery.definition.conditions,
    Yields (delivery.conditionsHold state [condition]) (fun answer => answer.2.ReportsNoMisuse)
      fun _ => False
  /-- Template processing of items reports none. -/
  template : ∀ {place item session}, delivery.itemDelivery place = .ok item →
    delivery.definition.RefersTo place → state.items.get? place.ref = some session →
    item.processTemplate.Ensures session (fun log _ => log.ReportsNoMisuse)
      fun error _ => error.isLogic = false
  /-- Response processing of items reports none. -/
  response : ∀ {place item session}, delivery.itemDelivery place = .ok item →
    delivery.definition.RefersTo place → state.items.get? place.ref = some session →
    ∀ maxAttempts now, (item.processResponse maxAttempts now).Ensures session
      (fun log _ => log.ReportsNoMisuse) fun error _ => error.isLogic = false
  /-- Attempts report none. -/
  attempt : ∀ {place item session}, delivery.itemDelivery place = .ok item →
    delivery.definition.RefersTo place → state.items.get? place.ref = some session →
    ∀ responses now policy, (item.attempt responses now policy).Ensures session
      (fun log _ => log.ReportsNoMisuse) fun error _ => error.isLogic = false

/-- Nothing that a valid test does reports a misuse. -/
theorem reportsOnly_noMisuse (hvalid : (delivery.definition.validate registry).errors = [])
    (hsignatures : delivery.definition.SignaturesValid) :
    delivery.ReportsOnly NotificationLog.ReportsNoMisuse where
  items hitem := by
    obtain ⟨definition, _, hheld, -, rfl⟩ := exists_of_itemDelivery hitem
    have hmem := List.mem_of_find?_eq_some hheld
    obtain ⟨-, -, -, -, -, -, hitems⟩ := TestDefinition.errors_validate_eq_nil.1 hvalid
    exact ItemDelivery.processes_noMisuse (hitems definition hmem)
      (hsignatures.items definition hmem)
  outcomes hstate _ _ := by
    obtain ⟨-, -, -, -, -, hrules, -⟩ := TestDefinition.errors_validate_eq_nil.1 hvalid
    refine Rule.ensures_execute_noMisuse (stage_keeps_stocked delivery)
      (delivery.agrees_stage.supports_of_checkRules (TestDefinition.usable_ofTest hsignatures)
        hrules) ?_ hstate (NotificationLog.reportsNoMisuse_empty _)
    intro _ _ _ _
    trivial
  conditions {state conditions} hstate hconditions := by
    have hkeeps : ∀ condition ∈ conditions,
        Evaluation.Keeps (fun environment => environment.log.ReportsNoMisuse)
          (fun fault => (∀ error, fault ≠ .logic error) ∧ fault.isMisuse = false)
          (condition.tryEvaluate delivery.engine (state.view delivery.definition)) := by
      intro condition hcondition environment hlog
      obtain ⟨source, hchecked⟩ :=
        TestDefinition.exists_errors_of_mem_conditions hvalid (hconditions condition hcondition)
      have hnodes := hstate.agrees.supports_of_checkExpression
        (TestDefinition.usable_ofTest hsignatures) hchecked
      have hlogic := hstate.noLogic_tryEvaluate condition environment trivial
      have hmisuse := condition.noMisuse_tryEvaluate delivery.engine hnodes environment hlog
      exact (hlogic.and hmisuse).mono (fun _ _ hleft => hleft.2) fun _ _ herror =>
        ⟨herror.2.1, herror.1.2, herror.2.2⟩
    exact yields_conditionsHold_of hkeeps (fun hlog herror => hlog.record herror.2)
      (fun error hlogic => hlogic.1 error rfl) (NotificationLog.reportsNoMisuse_empty _)
  empty := NotificationLog.reportsNoMisuse_empty _
  extend := NotificationLog.ReportsNoMisuse.extend
  note hlog hmessage := by
    refine hlog.record ?_
    simp only [List.mem_cons, List.not_mem_nil, or_false] at hmessage
    obtain rfl | rfl | rfl := hmessage <;> rfl

/-- Where validation finds no errors in a test whose types are all ones that values can have, no
variable and no operator is misused in any session, whatever extensions and options the engine
has. -/
theorem misusesNothing_of_reachable {seed : UInt64}
    (hvalid : (delivery.definition.validate registry).errors = [])
    (hsignatures : delivery.definition.SignaturesValid) (h : delivery.Reachable seed state) :
    delivery.MisusesNothing state := by
  have hdefinition := TestDefinition.wellFormed_of_validate hvalid
  have hreports := reportsOnly_noMisuse hvalid hsignatures
  have hstate := h.stocked hdefinition
  -- The session of an item is one of the item, whichever reference it belongs to.
  have hitems : ∀ {place item session}, delivery.itemDelivery place = .ok item →
      delivery.definition.RefersTo place → state.items.get? place.ref = some session →
      item.Stocked session := by
    intro place item session hitem hplace hsession
    obtain ⟨found, other, hfound, hother, hstocked⟩ := hstate.items place hplace
    obtain rfl := Except.ok.inj (hitem.symm.trans hfound)
    obtain rfl := Option.some.inj (hsession.symm.trans hother)
    exact hstocked
  constructor
  case requests =>
    intro request
    exact (hstate.reported hreports hdefinition request).mono (fun _ _ hlog => hlog.2)
      fun _ _ herror => herror.1
  case outcomes =>
    exact (hstate.processOutcomes hreports).mono (fun _ _ hlog => hlog.2)
      fun _ _ herror => herror.1
  case conditions =>
    intro condition hcondition
    refine hreports.conditions hstate fun other hother => ?_
    rw [List.mem_singleton.1 hother]
    exact hcondition
  case template =>
    intro place item session hitem hplace hsession
    exact ((hreports.items hitem).processTemplate (hitems hitem hplace hsession)).mono
      (fun _ _ hlog => hlog.2) fun _ _ herror => herror.1
  case response =>
    intro place item session hitem hplace hsession maxAttempts now
    exact ((hreports.items hitem).processResponse (hitems hitem hplace hsession) maxAttempts
      now).mono (fun _ _ hlog => hlog.2) fun _ _ herror => herror.1
  case attempt =>
    intro place item session hitem hplace hsession responses now policy
    exact ((hreports.items hitem).attempt (hitems hitem hplace hsession) responses now
      policy).mono (fun _ _ hlog => hlog.2) fun _ _ herror => herror.1

end TestDelivery

/-! ### A small test -/

/-- A test with one item, whose conditions and rules refer to an outcome variable of the test and,
by qualified names, to variables of the item. -/
def TestDefinition.total : TestDefinition :=
  let total : Identifier := ⟨"TOTAL", by decide +kernel⟩
  let known : Expression := .apply .not [.apply .isNull [.valueOf total none]]
  let response : Identifier := ⟨"ITEM.RESPONSE", by decide +kernel⟩
  let score : Identifier := ⟨"ITEM.SCORE", by decide +kernel⟩
  let guessed : Expression := .apply .equalValues [.valueOf response none, .correctOf response]
  let ref : ItemRef :=
    ⟨⟨"ITEM", by decide +kernel⟩, ItemDefinition.guess.identifier, [], [known], none, []⟩
  { TestDefinition.single .linear .individual with
    outcomes := [.simple total (.single .integer) (.integer 0)]
    outcomeProcessing :=
      [.condition [.mk guessed [.assign .outcomeValue total (.valueOf score none)]] none]
    parts :=
      [⟨⟨"PART", by decide +kernel⟩, .linear, .individual, [known], [⟨.exitTest, guessed⟩], none,
        [⟨⟨⟨"SECTION", by decide +kernel⟩, "", true, none⟩, [.itemRef ref]⟩]⟩]
    items := [.guess] }

namespace TestDelivery

/-- The small test with an engine that has no extensions. -/
def total : TestDelivery :=
  ⟨.total, ⟨.empty, .default⟩, ⟨.sha256, "total"⟩,
    .ofList [(ItemDefinition.guess.identifier, ⟨.sha256, "guess"⟩)]⟩

/-- Nothing is misused in a session of the small test in which its rules were run. -/
theorem misusesNothing_of_reachable_total :
    (total.definition.validate .empty).errors = [] ∧ total.definition.SignaturesValid ∧
    ∃ state, total.Reachable 0 state ∧ state.outcomeRuns = 1 ∧ total.MisusesNothing state := by
  have hvalid : (total.definition.validate .empty).errors = [] := by
    decide +kernel
  have hsignatures : total.definition.SignaturesValid := by
    refine ⟨?_, fun item hitem => ?_⟩
    · decide
    · rw [List.mem_singleton.1 hitem]
      unfold ItemDefinition.SignaturesValid
      decide
  have hsession : (total.sessionAfter 0
      [.enterTest (.logical 0), .enterPart (.unixMillis 0), .advance (.logical 0),
        .respond (.unixMillis 0)
          (.ofList [(⟨"RESPONSE", by decide +kernel⟩, .strings ["3"])])]).any
      (fun state => state.outcomeRuns = 1) = true := by
    decide +kernel
  obtain ⟨state, hstate, hruns⟩ := (Option.any_eq_true _ _).1 hsession
  have hreachable := reachable_of_sessionAfter hstate
  exact ⟨hvalid, hsignatures, state, hreachable, of_decide_eq_true hruns,
    misusesNothing_of_reachable hvalid hsignatures hreachable⟩

end TestDelivery

end Assessment
