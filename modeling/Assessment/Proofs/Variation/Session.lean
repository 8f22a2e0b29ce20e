import Assessment.Proofs.Test.Related
import Assessment.Proofs.Test.Stock
import Assessment.Proofs.Variation.Item

/-!
# Variations of test sessions

A test session holds a session for every item, and the states of its parts. In two runs, the
sessions of the items are varied as those of items by themselves, and the times of the parts are
other ones. Nothing that the rules and the conditions of the test look at is different.

## Main definitions

- `Variation.TestSessions`: the sessions of one test in both runs.
- `TestDefinition.Admitted`: what holds of all expressions of a test.

## Main results

- `Variation.TestSessions.view`: expressions see the same of both sessions.
- `Variation.couple_conditionsHold`: conditions hold in both runs, or in neither.
-/

namespace Assessment

open Action

/-! ### Expressions of tests -/

/-- All expressions of a test, in the rules of its items, in its outcome processing and in its
conditions, are ones of which `admits` holds. -/
structure TestDefinition.Admitted (admits : Expression → Prop) (test : TestDefinition) : Prop where
  /-- Template processing of an item. -/
  templateProcessing : ∀ item ∈ test.items,
    Rule.Admitted admits (Rule.walkAll item.templateProcessing)
  /-- Response processing of an item. -/
  responseProcessing : ∀ item ∈ test.items,
    Rule.Admitted admits (Rule.walkAll item.responseProcessing)
  /-- Outcome processing. -/
  outcomeProcessing : Rule.Admitted admits (Rule.walkAll test.outcomeProcessing)
  /-- Conditions of parts, of references to items and of branches. -/
  conditions : ∀ condition ∈ test.conditions, admits condition

section decidable

variable {admits : Expression → Prop} [DecidablePred admits]

instance Rule.decidableAdmitted {rules : List Rule} : Decidable (Rule.Admitted admits rules) :=
  inferInstanceAs (Decidable (∀ rule ∈ rules, ∀ expression ∈ rule.ownExpressions,
    admits expression))

instance TestDefinition.decidableAdmitted {test : TestDefinition} :
    Decidable (test.Admitted admits) :=
  decidable_of_iff
    ((∀ item ∈ test.items, Rule.Admitted admits (Rule.walkAll item.templateProcessing)) ∧
      (∀ item ∈ test.items, Rule.Admitted admits (Rule.walkAll item.responseProcessing)) ∧
      Rule.Admitted admits (Rule.walkAll test.outcomeProcessing) ∧
      ∀ condition ∈ test.conditions, admits condition)
    ⟨fun ⟨htemplate, hresponse, houtcome, hconditions⟩ =>
      ⟨htemplate, hresponse, houtcome, hconditions⟩, fun h =>
      ⟨h.templateProcessing, h.responseProcessing, h.outcomeProcessing, h.conditions⟩⟩

end decidable

/-! ### Sessions of both runs -/

/-- What a session keeps of a part apart from its times. -/
def PartState.timeless (part : PartState) : PartState :=
  { part with entryTime := none, endTime := none }

theorem PartState.timeless_inj {part part' : PartState} : part.timeless = part'.timeless ↔
    part.identifier = part'.identifier ∧ part.node = part'.node ∧ part.status = part'.status := by
  simp [PartState.timeless]

/-- What a test session keeps apart from its items and parts, its times and its seed. -/
def TestState.timeless (state : TestState) : TestState :=
  { state with
    items := .empty
    parts := []
    entryTime := none
    endTime := none
    lastEvent := none
    seed := 0 }

namespace Variation

variable {v : Variation} {test : TestDefinition} {s t : TestState}

/-- Sessions of one test in both runs. They differ in times and in seeds only, those of their items
included. -/
structure TestSessions (v : Variation) (s t : TestState) : Prop where
  /-- Apart from items, parts, times and the seed, the sessions are the same. -/
  timeless : t.timeless = s.timeless
  /-- The sessions of the items are those of both runs. -/
  items : SortedMap.Forall₂ v.ItemSessions s.items t.items
  /-- The parts are the same apart from their times. -/
  parts : t.parts.map PartState.timeless = s.parts.map PartState.timeless
  /-- Time is counted since a moment that is later by the delay, or not at all. -/
  lastEvent : Option.Rel (Timestamp.Later v.delay) s.lastEvent t.lastEvent
  /-- The seed is the same if it is to be. -/
  seed : v.sameSeed → s.seed = t.seed

namespace TestSessions

variable (h : v.TestSessions s t)

include h

/-- What does not depend on items, parts, times and the seed is the same in both sessions. -/
theorem congr {α : Type} (f : TestState → α)
    (hf : ∀ state : TestState, f state.timeless = f state) : f t = f s := by
  rw [← hf t, h.timeless, hf]

/-- What is made of both sessions is the same apart from items, parts, times and the seed. -/
theorem timeless_apply (f : TestState → TestState)
    (hf : ∀ state : TestState, (f state.timeless).timeless = (f state).timeless) :
    (f t).timeless = (f s).timeless := h.congr (fun state => (f state).timeless) hf

/-- What does not depend on the times of the parts is the same in both sessions. -/
theorem parts_congr {α : Type} (f : List PartState → α)
    (hf : ∀ parts, f (parts.map PartState.timeless) = f parts) : f t.parts = f s.parts := by
  rw [← hf t.parts, h.parts, hf]

theorem digest : t.digest = s.digest := h.congr TestState.digest fun _ => rfl

theorem plan : t.plan = s.plan := h.congr TestState.plan fun _ => rfl

theorem status : t.status = s.status := h.congr TestState.status fun _ => rfl

theorem currentPart : t.currentPart = s.currentPart := h.congr TestState.currentPart fun _ => rfl

theorem currentItem : t.currentItem = s.currentItem := h.congr TestState.currentItem fun _ => rfl

theorem outcomes : t.outcomes = s.outcomes := h.congr TestState.outcomes fun _ => rfl

theorem outcomeRuns : t.outcomeRuns = s.outcomeRuns := h.congr TestState.outcomeRuns fun _ => rfl

theorem pendingBranch : t.pendingBranch = s.pendingBranch :=
  h.congr TestState.pendingBranch fun _ => rfl

theorem exitRequested : t.exitRequested = s.exitRequested :=
  h.congr TestState.exitRequested fun _ => rfl

theorem passes : t.passes = s.passes := h.congr TestState.passes fun _ => rfl

theorem duration : t.duration = s.duration := h.congr TestState.duration fun _ => rfl

/-- The outcomes of the test may be replaced in both runs. -/
theorem withOutcomes (outcomes : Store) :
    v.TestSessions { s with outcomes } { t with outcomes } :=
  { h with
    timeless := h.timeless_apply (fun state => { state with outcomes }) fun _ => rfl }

/-! ### What expressions see -/

/-- What the sessions of one item have in common is the same, wherever it is looked up. -/
theorem session_congr {α : Type} (ref : Identifier) (f : Option ItemState → α)
    (hf : ∀ session, f (session.map ItemState.timeless) = f session) :
    f (t.items.get? ref) = f (s.items.get? ref) := by
  have hsession := h.items.get? ref
  rw [← hf, ← hf (s.items.get? ref)]
  generalize s.items.get? ref = session, t.items.get? ref = session' at hsession
  cases hsession with
  | none => rfl
  | some hsession => rw [Option.map_some, Option.map_some, hsession.timeless]

/-- What is read of an item does not depend on the times and the seed of its session. -/
theorem readQualified (test : TestDefinition) (name : Identifier)
    {read : ItemDefinition → ItemState → Identifier → Except LogicError Value}
    (hread : ∀ definition (session : ItemState),
      read definition session.timeless = read definition session) :
    t.readQualified test name read = s.readQualified test name read := by
  refine (couple_eq_iff.1 (TestState.couple_readQualified h.items test name ?_)).symm
  intro definition session session' inner hsession
  rw [couple_eq_iff, hsession.congr (read definition) (hread definition)]

/-- The items to aggregate over are the same apart from times and seeds. -/
theorem testItems (test : TestDefinition) :
    Couple (fun items items' => items'.map TestItem.timeless = items.map TestItem.timeless) Eq
      (s.testItems test) (t.testItems test) := by
  refine (TestState.couple_testItems h.items test h.plan).mono (fun items items' hitems => ?_)
    fun _ _ herror => herror
  refine map_eq_of_forall₂ hitems fun item item' hitem => ?_
  simp only [TestItem.timeless, hitem.ref, hitem.definition, hitem.sections, hitem.state.timeless]

/-- Expressions see the same of both sessions. -/
theorem view (test : TestDefinition) :
    (TestState.view test s).Alike (TestState.view test t) where
  declaration? := TestState.declaration?_congr h.items test
  value := by
    funext name
    change t.read test name = s.read test name
    rw [TestState.read, TestState.read, h.outcomes, h.readQualified test name fun _ _ => rfl]
  defaultValue := by
    funext name
    change t.readDefault test name = s.readDefault test name
    rw [TestState.readDefault, TestState.readDefault, h.readQualified test name fun _ _ => rfl]
  correctValue := by
    funext name
    change t.readCorrect test name = s.readCorrect test name
    rw [TestState.readCorrect, TestState.readCorrect, h.readQualified test name fun _ _ => rfl]
  weight? := TestState.weight?_congr h.items test
  items _ := h.testItems test

end TestSessions

/-! ### Rules and conditions -/

/-- Both runs may evaluate the expressions of a test. -/
abbrev Permits (v : Variation) (test : TestDefinition) : Prop :=
  test.Admitted v.AdmitsWhole

/-- Rules of the test run alike in both runs. -/
theorem couples_testStage (v : Variation) (test : TestDefinition) :
    (TestState.stage test).Couples v.engine v.engine' v.AdmitsWhole v.Environments
      v.TestSessions where
  attempts := v.attempts
  evaluate hexpression h henvironment := alike_tryEvaluate (h.view test) hexpression henvironment
  record notification h := h.record notification
  declaration? name h := congrFun (h.view test).declaration?.symm name
  assign {s t} name value h := by
    change Matches _ (TestState.assign test name value s) (TestState.assign test name value t)
    unfold TestState.assign
    rw [h.outcomes]
    cases test.outcome? name with
    | none => exact rfl
    | some _ =>
      have hset : Matches Eq (s.outcomes.set name value) (s.outcomes.set name value) :=
        matches_self fun _ _ => rfl
      refine hset.bind ?_
      rintro outcomes _ rfl
      exact h.withOutcomes outcomes
  setCorrect _ _ hover := by cases hover
  setDefault _ _ hover := by cases hover

/-- Conditions hold in both runs, or in neither. -/
theorem alike_allTrue {view view' : View} (hview : view.Alike view') {conditions : List Expression}
    (hconditions : ∀ condition ∈ conditions, v.AdmitsWhole condition)
    {environment environment' : Environment} (h : v.Environments environment environment') :
    Alike v.Environments (TestDelivery.allTrue v.engine view conditions)
      (TestDelivery.allTrue v.engine' view' conditions) environment environment' := by
  induction conditions generalizing environment environment' with
  | nil => exact alike_pure h
  | cons first rest ih =>
    rw [TestDelivery.allTrue, TestDelivery.allTrue]
    refine (alike_evaluate hview (hconditions first List.mem_cons_self) h).bind
      fun value _ _ h => ?_
    split
    next => exact ih (fun condition hmem => hconditions condition (List.mem_cons_of_mem _ hmem)) h
    next => exact alike_pure h

end Variation

/-- The test with another engine. -/
def TestDelivery.under (delivery : TestDelivery) (engine : Engine) : TestDelivery :=
  { delivery with engine }

namespace Variation

variable {v : Variation} {delivery : TestDelivery} {s t : TestState}

/-- The same answer in both runs, with what each keeps of the same notifications. -/
def Answers {α : Type} (v : Variation) (answer answer' : α × NotificationLog) : Prop :=
  answer.1 = answer'.1 ∧ v.Logs answer.2 answer'.2

/-- Conditions hold of both sessions, or of neither, and the same is reported. -/
theorem couple_conditionsHold (h : v.TestSessions s t) {conditions : List Expression}
    (hconditions : ∀ condition ∈ conditions, v.AdmitsWhole condition) :
    Couple v.Answers Eq ((delivery.under v.engine).conditionsHold s conditions)
      ((delivery.under v.engine').conditionsHold t conditions) := by
  obtain ⟨hresult, hleft⟩ := alike_allTrue (h.view delivery.definition) hconditions
    (environments_forPass h.seed h.passes)
  unfold TestDelivery.conditionsHold
  dsimp only [TestDelivery.under]
  generalize (TestDelivery.allTrue v.engine _ conditions).run.run _ = answer at hresult hleft ⊢
  generalize (TestDelivery.allTrue v.engine' _ conditions).run.run _ = answer' at hresult hleft ⊢
  obtain ⟨result, left⟩ := answer
  obtain ⟨_, left'⟩ := answer'
  cases hresult
  cases result with
  | ok holds => exact ⟨rfl, hleft.log⟩
  | error error => exact rfl

end Variation

end Assessment
