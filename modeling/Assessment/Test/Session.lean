import Assessment.Item.Session
import Assessment.Test.View

/-!
# Test sessions

The course of one test with one candidate. Parts are entered in the order in which they are written,
as far as their conditions and the branches of earlier parts let them. In a part, items are visited
in order or at will, and they are scored after each attempt or when the part ends.

Every operation is an action on the state of the session. It refuses a state that was made for
another test, and a step that the state does not permit.

## Main definitions

- `TestDelivery`: a test with the engine that runs its rules.
- `TestDelivery.create`: a new session.
- `TestDelivery.enterPart`, `TestDelivery.select`, `TestDelivery.advance`: moving through a test.
- `TestDelivery.respond`: submitting responses to the current item.
- `TestDelivery.endPart`: scoring what was left, and closing the items of the part.
-/

namespace Assessment

/-- A step that the state of a test session does not permit. -/
inductive NavigationViolation where
  /-- The test was not entered yet. -/
  | testNotEntered
  /-- The test was entered before. -/
  | testAlreadyEntered
  /-- The test is over. -/
  | testExited
  /-- No part is left to be entered. -/
  | noFurtherPart
  /-- A part is under way. -/
  | partInProgress (part : Identifier)
  /-- No part is under way. -/
  | noCurrentPart
  /-- The step is for parts of another mode. -/
  | wrongMode (expected : NavigationMode)
  /-- The item stands in another part. -/
  | notInCurrentPart (item : Identifier)
  /-- The plan has no such item. -/
  | unknownItem (item : Identifier)
  /-- No item is presented. -/
  | noCurrentItem
  /-- The session of the item is over. -/
  | itemClosed (item : Identifier)
  /-- The item may not be left without an answer. -/
  | skippingNotAllowed (item : Identifier)
  deriving DecidableEq

/-- The message of a violation. -/
def NavigationViolation.message : NavigationViolation → String
  | testNotEntered => "test has not been entered"
  | testAlreadyEntered => "test has already been entered"
  | testExited => "test has been exited"
  | noFurtherPart => "no further test part is available"
  | partInProgress part => "test part " ++ part.text ++ " is still in progress"
  | noCurrentPart => "no test part is current"
  | wrongMode expected => "operation requires " ++ expected.name ++ " navigation"
  | notInCurrentPart item => "item " ++ item.text ++ " is not part of the current test part"
  | unknownItem item => "unknown item " ++ item.text
  | noCurrentItem => "no item is current"
  | itemClosed item => "item " ++ item.text ++ " is closed"
  | skippingNotAllowed item => "item " ++ item.text ++ " must be answered before moving on"

/-- The name by which callers tell errors of a kind from others. -/
def NavigationViolation.kind : NavigationViolation → String
  | testNotEntered => "TestNotEntered"
  | testAlreadyEntered => "TestAlreadyEntered"
  | testExited => "TestExited"
  | noFurtherPart => "NoFurtherTestPart"
  | partInProgress _ => "TestPartInProgress"
  | noCurrentPart => "NoCurrentTestPart"
  | wrongMode _ => "WrongNavigationMode"
  | notInCurrentPart _ => "ItemNotInCurrentPart"
  | unknownItem _ => "UnknownItem"
  | noCurrentItem => "NoCurrentItem"
  | itemClosed _ => "ItemClosed"
  | skippingNotAllowed _ => "SkippingNotAllowed"

/-- Why an operation on a test session is refused. -/
inductive TestError where
  /-- The state does not permit the step. -/
  | navigation (violation : NavigationViolation)
  /-- The session of an item refuses its part of it. -/
  | item (ref : Identifier) (error : ItemError)
  /-- The definition or the session does not hold together. -/
  | logic (error : LogicError)

namespace TestError

/-- The message of an error. -/
def message : TestError → String
  | navigation violation => violation.message
  | item ref error => "item " ++ ref.text ++ ": " ++ error.message
  | logic error => error.message

/-- The name by which callers tell errors of a kind from others. -/
def kind : TestError → String
  | navigation violation => "Navigation/" ++ violation.kind
  | item _ error => "Item/" ++ error.kind
  | logic error => "Logic/" ++ error.kind

/-- The error of a test session that an error of the session of an item causes. -/
def ofItem (ref : Identifier) : ItemError → TestError
  | .logic error => logic error
  | error => item ref error

end TestError

/-- The place of an item in a plan. -/
structure ItemPlace where
  /-- The name of the reference. -/
  ref : Identifier
  /-- The name of the item. -/
  item : Identifier
  /-- Control of its session. -/
  control : EffectiveControl

/-- The result of a step with what it reported. -/
structure Step (α : Type) where
  /-- The result. -/
  outcome : α
  /-- What was reported. -/
  log : NotificationLog

/-- A test with the engine that runs its rules. -/
structure TestDelivery where
  /-- The test. -/
  definition : TestDefinition
  /-- The engine. -/
  engine : Engine
  /-- The digest of the test. -/
  digest : Digest
  /-- The digests of the items by their names. -/
  itemDigests : SortedMap Identifier Digest

/-- An operation on a test session. -/
abbrev TestAction : Type → Type := Action TestState TestError

namespace TestAction

/-- The result of a part that only fails with logic errors. -/
def ofLogic {α : Type} (inner : Action TestState LogicError α) : TestAction α :=
  inner.rename .logic

/-- The result of a look-up. -/
def lookUp {α : Type} (result : Except LogicError α) : TestAction α :=
  Action.ofExcept (result.mapError .logic)

/-- Refuse a step. -/
def refuse {α : Type} (violation : NavigationViolation) : TestAction α :=
  throw (.navigation violation)

end TestAction

open TestAction

/-- The item that a node of a plan stands for. -/
def TestPlan.place (plan : TestPlan) (index : Nat) : Except LogicError ItemPlace := do
  match (← plan.node index).kind with
  | .itemRef identifier item control => return ⟨identifier, item, control⟩
  | _ => throw (.unknownPlanNode index)

/-- The seed of the session of an item from its position among all items. -/
def itemSeed (testSeed ordinal : UInt64) : UInt64 :=
  -- a rotation and an odd multiplier: no two items of a session share a seed
  ((testSeed <<< 17) ||| (testSeed >>> 47)) ^^^ ((ordinal + 1) * 0xBF58476D1CE4E5B9)

namespace TestDelivery

/-- A test with an engine. -/
def of (definition : TestDefinition) (engine : Engine) : TestDelivery :=
  ⟨definition, engine, definition.digest,
    .ofList (definition.items.map fun item => (item.identifier, item.digest))⟩

/-- A log without notifications. -/
def newLog (delivery : TestDelivery) : NotificationLog := .empty delivery.engine.options.level

/-- The delivery of the item at a place. -/
def itemDelivery (delivery : TestDelivery) (place : ItemPlace) : Except LogicError ItemDelivery :=
  match delivery.definition.item? place.item, delivery.itemDigests.get? place.item with
  | some definition, some digest => .ok ⟨definition, delivery.engine, digest⟩
  | _, _ => .error (.missingItemDefinition place.ref place.item)

/-- The part of the test that a node of a plan stands for. -/
def part (delivery : TestDelivery) (plan : TestPlan) (index : Nat) :
    Except LogicError TestPart := do
  let node ← plan.node index
  match node.identifier? >>= delivery.definition.part? with
  | some part => return part
  | none => throw (.unknownPlanNode index)

/-! ### A new session -/

/-- The new session of an item at a node of the plan, with the name of the reference. -/
def createItem (delivery : TestDelivery) (plan : TestPlan) (seed : UInt64) (index ordinal : Nat) :
    Except TestError (Identifier × ItemState) := do
  let place ← (plan.place index).mapError .logic
  let item ← (delivery.itemDelivery place).mapError .logic
  let state ← (item.create .empty (itemSeed seed (.ofNat ordinal))).mapError (.ofItem place.ref)
  return (place.ref, state)

/-- The state of a part that was not entered. -/
def newPart (plan : TestPlan) (index : Nat) : Except LogicError PartState := do
  match (← plan.node index).identifier? with
  | some identifier => return ⟨identifier, index, .notEntered, none, none⟩
  | none => throw (.unknownPlanNode index)

/-- A new session. -/
def create (delivery : TestDelivery) (seed : UInt64) : Except TestError TestState := do
  let definition := delivery.definition
  let plan ← (TestPlan.build definition).mapError .logic
  let items ← plan.items.zipIdx.mapM fun entry => delivery.createItem plan seed entry.1 entry.2
  let parts ← (plan.testParts.mapM (newPart plan)).mapError .logic
  let declared := Store.ofVariables (definition.outcomes.map fun d => (d.identifier, d.initial))
  return {
    digest := delivery.digest
    plan
    status := .notEntered
    items := .ofList items
    parts
    currentPart := none
    currentItem := none
    outcomes := declared.insert BuiltIn.duration.identifier BuiltIn.duration.initial
    outcomeRuns := 0
    pendingBranch := none
    exitRequested := false
    entryTime := none
    endTime := none
    lastEvent := none
    seed
    passes := 0 }

/-! ### What a step requires -/

/-- Refuse a session of another test. -/
def check (delivery : TestDelivery) : TestAction Unit := do
  let found := (← get).digest
  if found = delivery.digest then pure ()
  else throw (.logic (.definitionMismatch delivery.digest.value found.value))

/-- Refuse a session that is not under way. -/
def requireInteracting (delivery : TestDelivery) : TestAction Unit := do
  delivery.check
  match (← get).status with
  | .notEntered => refuse .testNotEntered
  | .exited => refuse .testExited
  | .interacting => pure ()

/-- Refuse a session in which a part is under way. -/
def requireNoOpenPart : TestAction Unit := do
  match (← get).openPart? with
  | some part => refuse (.partInProgress part.identifier)
  | none => pure ()

/-- The node of the part that is under way. -/
def activePart (delivery : TestDelivery) : TestAction Nat := do
  delivery.requireInteracting
  let state ← get
  match state.currentPart with
  | none => refuse .noCurrentPart
  | some index =>
    if state.parts.any fun part => part.node = index ∧ part.status = .interacting then
      return index
    else refuse .noCurrentPart

/-- Refuse a step for parts of another mode. -/
def requireMode (expected : NavigationMode) (part : TestPart) : TestAction Unit :=
  if part.navigation = expected then pure () else refuse (.wrongMode expected)

/-! ### Conditions -/

/-- Whether all conditions are true, up to the first that is not. -/
def allTrue (engine : Engine) (view : View) : List Expression → Action Environment LogicError Bool
  | [] => return true
  | first :: rest => do
    if (← first.evaluate engine view).bool? = some true then allTrue engine view rest
    else return false

/-- Whether all conditions are true of a session, and what their evaluation reported. Random numbers
are those of the next pass, which is not used up. -/
def conditionsHold (delivery : TestDelivery) (state : TestState) (conditions : List Expression) :
    Except LogicError (Bool × NotificationLog) :=
  let environment := Environment.forPass state.seed state.passes delivery.engine.options.level
  let view := state.view delivery.definition
  let (result, environment) := (allTrue delivery.engine view conditions).run.run environment
  result.map fun holds => (holds, environment.log)

/-! ### Time and outcomes -/

/-- Count the time since the last event. -/
def touch (now : Timestamp) : TestAction Unit := do
  let state ← get
  match state.lastEvent >>= now.secondsSince? with
  | some elapsed =>
    if 0.0 < elapsed then do
      let total := Value.duration (state.duration + elapsed)
      let outcomes ← lookUp (state.outcomes.set BuiltIn.duration.identifier total)
      modify fun state => { state with outcomes }
  | none => pure ()
  modify fun state => { state with lastEvent := some now }

/-- Set variables of the test in turn. -/
def setOutcomes : List (Identifier × Value) → TestAction Unit
  | [] => pure ()
  | (name, value) :: rest => do
    let outcomes ← lookUp ((← get).outcomes.set name value)
    modify fun state => { state with outcomes }
    setOutcomes rest

/-- Set all declared outcome variables of the test to their defaults. -/
def resetOutcomes (delivery : TestDelivery) : TestAction Unit :=
  setOutcomes (delivery.definition.outcomes.map fun d => (d.identifier, d.initial))

/-- Run outcome processing once, from the defaults of all outcome variables. -/
def processOutcomes (delivery : TestDelivery) : TestAction NotificationLog := do
  delivery.resetOutcomes
  let state ← get
  set { state with passes := state.passes + 1 }
  let environment := Environment.forPass state.seed state.passes delivery.engine.options.level
  let stage := TestState.stage delivery.definition
  let rules := delivery.definition.outcomeProcessing
  let (ending, log) ← ofLogic ((Rule.execute delivery.engine stage rules).on environment)
  modify fun state =>
    { state with
      outcomeRuns := state.outcomeRuns + 1
      exitRequested := state.exitRequested || ending = .exited .test }
  return log

/-! ### The sessions of items -/

/-- The session of the item at a place, which has to be an item of the test. -/
def session (delivery : TestDelivery) (place : ItemPlace) : TestAction ItemState := do
  let _ ← lookUp (delivery.itemDelivery place)
  match (← get).items.get? place.ref with
  | some session => return session
  | none => throw (.logic (.unknownItem place.ref))

/-- An operation on the session of the item at a place. -/
def onItem {α : Type} (delivery : TestDelivery) (place : ItemPlace)
    (operation : ItemDelivery → ItemAction α) : TestAction α := do
  let item ← lookUp (delivery.itemDelivery place)
  let session ← delivery.session place
  let (result, changed) := (operation item).run.run session
  -- the session is put back before the result is looked at
  modify fun state => { state with items := state.items.insert place.ref changed }
  match result with
  | .ok a => return a
  | .error error => throw (.ofItem place.ref error)

/-- Stop the clock of the current item. -/
def suspendCurrent (delivery : TestDelivery) (now : Timestamp) : TestAction Unit := do
  let state ← get
  match state.currentItem with
  | none => pure ()
  | some current => do
    let place ← lookUp (state.plan.place current)
    let session ← delivery.session place
    -- an item that was closed by its last attempt has no clock to stop
    if session.isPresented && !session.isClosed then
      delivery.onItem place fun item => item.suspend now

/-- Present an item and make it the current one. -/
def enterItem (delivery : TestDelivery) (index : Nat) (now : Timestamp) : TestAction Unit := do
  let place ← lookUp ((← get).plan.place index)
  delivery.onItem place fun item => item.enter now
  modify fun state => { state with currentItem := some index }

/-! ### Entering the test and its parts -/

/-- Enter the test. No part is under way yet. -/
def enterTest (delivery : TestDelivery) (now : Timestamp) : TestAction (Step Unit) := do
  delivery.check
  match (← get).status with
  | .interacting => refuse .testAlreadyEntered
  | .exited => refuse .testExited
  | .notEntered => do
    delivery.resetOutcomes
    modify fun state =>
      { state with status := .interacting, entryTime := some now, lastEvent := some now }
    return ⟨(), delivery.newLog⟩

/-- Where the search for the next part begins: at the part that a branch leads to if it is still to
come, else at the first that is. -/
def firstCandidate? (state : TestState) : Option Nat := do
  let first ← state.parts.findIdx? (·.status = .notEntered)
  let branch := state.pendingBranch >>= fun target =>
    state.parts.findIdx? fun part => part.identifier = target ∧ part.status = .notEntered
  some (branch.getD first)

/-- The first of some parts that was not entered and whose conditions hold, with its position. -/
def choosePart (delivery : TestDelivery) (state : TestState) :
    List (PartState × Nat) → NotificationLog → Except LogicError (Option Nat × NotificationLog)
  | [], log => .ok (none, log)
  | (entry, position) :: rest, log =>
    if entry.status ≠ .notEntered then choosePart delivery state rest log
    else do
      let part ← delivery.part state.plan entry.node
      let (holds, notes) ← delivery.conditionsHold state part.preConditions
      let log := log.extend notes
      if holds then return (some position, log)
      else
        let note := ⟨.info, .lifecycle, entry.identifier.text, .partSkipped⟩
        choosePart delivery state rest (log.record note)

/-- Pass over a part that is still to come. -/
def skipPart (entry : PartState) : PartState :=
  if entry.status = .notEntered then { entry with status := .skipped } else entry

/-- The parts when the one at a position is entered: those before it are passed over. -/
def enterAt (position : Nat) (now : Timestamp) (parts : List PartState) : List PartState :=
  (parts.take position).map skipPart ++
    (parts.drop position).modifyHead fun entry =>
      { entry with status := .interacting, entryTime := some now }

/-- Run the template processing of some items of the plan, where it was not done before. -/
def prepareItems (delivery : TestDelivery) :
    List Nat → NotificationLog → TestAction NotificationLog
  | [], log => return log
  | index :: rest, log => do
    let place ← lookUp ((← get).plan.place index)
    let session ← delivery.session place
    if session.templateProcessed then prepareItems delivery rest log
    else do
      let notes ← delivery.onItem place fun item => item.processTemplate
      prepareItems delivery rest (log.extend notes)

/-- Enter the next part, and run the template processing of its items. -/
def enterPart (delivery : TestDelivery) (now : Timestamp) : TestAction (Step Identifier) := do
  delivery.requireInteracting
  requireNoOpenPart
  let state ← get
  -- rules or a branch have ended the test
  if state.exitRequested then refuse .noFurtherPart
  match firstCandidate? state with
  | none => refuse .noFurtherPart
  | some first => do
    -- parts before the target of a branch are not asked
    let candidates := state.parts.zipIdx.drop first
    let (chosen, log) ← lookUp (delivery.choosePart state candidates delivery.newLog)
    -- the parts are looked at before the state is changed
    match chosen >>= fun position => (state.parts[position]?).map (position, ·) with
    | none => refuse .noFurtherPart
    | some (position, entry) => do
      touch now
      modify fun state =>
        { state with
          parts := enterAt position now state.parts
          currentPart := some entry.node
          currentItem := none
          pendingBranch := none }
      let log ← delivery.prepareItems (state.plan.itemsUnder entry.node) log
      return ⟨entry.identifier, log⟩

/-! ### Moving among items -/

/-- Present any open item of a part that is visited at will. -/
def select (delivery : TestDelivery) (now : Timestamp) (ref : Identifier) :
    TestAction (Step Unit) := do
  let part ← delivery.activePart
  let state ← get
  requireMode .nonlinear (← lookUp (delivery.part state.plan part))
  match state.plan.findItem? ref.text with
  | none => refuse (.unknownItem ref)
  | some index => do
    if state.plan.partOf? index ≠ some part then refuse (.notInCurrentPart ref)
    if (state.items.get? ref).all ItemState.isClosed then refuse (.itemClosed ref)
    touch now
    -- the clock of an item that is selected again goes on
    if state.currentItem ≠ some index then delivery.suspendCurrent now
    delivery.enterItem index now
    return ⟨(), delivery.newLog⟩

/-- Refuse to leave an item that has to be answered first. -/
def requireLeavable (state : TestState) : TestAction Unit :=
  match state.currentItem with
  | none => pure ()
  | some current => do
    let place ← lookUp (state.plan.place current)
    let responded := (state.items.get? place.ref).any (·.responded)
    if !place.control.allowSkipping && !responded then refuse (.skippingNotAllowed place.ref)

/-- The first item behind a given one whose conditions hold, and its place; at most so many items
are tried. -/
def nextItem (delivery : TestDelivery) (state : TestState) (part : Nat) :
    Nat → Option Nat → NotificationLog →
    Except LogicError (Option (Nat × ItemPlace) × NotificationLog)
  | 0, _, log => .ok (none, log)
  | tries + 1, current, log =>
    match state.plan.nextItemInPart? part current with
    | none => .ok (none, log)
    | some index => do
      let place ← state.plan.place index
      let conditions := ((delivery.definition.itemRef? place.ref).map (·.preConditions)).getD []
      let (holds, notes) ← delivery.conditionsHold state conditions
      let log := log.extend notes
      if holds then return (some (index, place), log)
      else
        let note := ⟨.info, .lifecycle, place.ref.text, .itemSkipped⟩
        nextItem delivery state part tries (some index) (log.record note)

/-- Present the next item of a part that is visited in order; none is left at its end. -/
def advance (delivery : TestDelivery) (now : Timestamp) :
    TestAction (Step (Option Identifier)) := do
  let part ← delivery.activePart
  let state ← get
  requireMode .linear (← lookUp (delivery.part state.plan part))
  requireLeavable state
  -- each try moves on in the list of items
  let tries := (state.plan.itemsUnder part).length
  let search := delivery.nextItem state part tries state.currentItem delivery.newLog
  let (next, log) ← lookUp search
  touch now
  delivery.suspendCurrent now
  match next with
  | some (index, place) => do
    delivery.enterItem index now
    return ⟨some place.ref, log⟩
  | none => do
    modify fun state => { state with currentItem := none }
    return ⟨none, log⟩

/-! ### Submitting -/

/-- How an attempt is taken in a mode. Attempts that are scored when the part ends are not
limited. -/
def policy (mode : SubmissionMode) (control : EffectiveControl) : SubmissionPolicy :=
  match mode with
  | .individual => ⟨control.maxAttempts, control.validateResponses, false⟩
  | .simultaneous => ⟨0, control.validateResponses, true⟩

/-- Submit responses to the current item. -/
def respond (delivery : TestDelivery) (now : Timestamp)
    (responses : SortedMap Identifier ResponseData) : TestAction (Step Unit) := do
  let part ← delivery.activePart
  let state ← get
  match state.currentItem with
  | none => refuse .noCurrentItem
  | some current => do
    let place ← lookUp (state.plan.place current)
    let mode := (← lookUp (delivery.part state.plan part)).submission
    if (← delivery.session place).isClosed then refuse (.itemClosed place.ref)
    let log ← delivery.onItem place fun item =>
      item.attempt responses now (policy mode place.control)
    touch now
    match mode with
    | .individual => return ⟨(), log.extend (← delivery.processOutcomes)⟩
    | .simultaneous => return ⟨(), log⟩

/-! ### Ending a part and the test -/

/-- Score the attempts on some items that wait for it. In a part that is scored at its end, items
without an attempt are scored too. -/
def scoreItems (delivery : TestDelivery) (now : Timestamp) (mode : SubmissionMode) :
    List Nat → NotificationLog → TestAction NotificationLog
  | [], log => return log
  | index :: rest, log => do
    let place ← lookUp ((← get).plan.place index)
    let session ← delivery.session place
    let visited := session.isPresented && !session.isClosed
    let waiting := session.pending || (mode = .simultaneous && !session.responseProcessed)
    if visited && waiting then do
      -- attempts are not limited here, so no limit closes the item
      let notes ← delivery.onItem place fun item => item.processResponse 0 now
      scoreItems delivery now mode rest (log.extend notes)
    else scoreItems delivery now mode rest log

/-- Close the sessions of some items. -/
def closeItems (delivery : TestDelivery) (now : Timestamp) : List Nat → TestAction Unit
  | [] => pure ()
  | index :: rest => do
    let place ← lookUp ((← get).plan.place index)
    let session ← delivery.session place
    if !session.isClosed then delivery.onItem place fun item => item.endSession now
    closeItems delivery now rest

/-- The parts when the one of a node ends. -/
def endAt (node : Nat) (now : Timestamp) : List PartState → List PartState
  | [] => []
  | entry :: rest =>
    if entry.node = node then { entry with status := .ended, endTime := some now } :: rest
    else entry :: endAt node now rest

/-- Whether a part of a name is still to come. -/
def isUpcoming (state : TestState) (name : Identifier) : Bool :=
  state.parts.any fun part => part.identifier = name ∧ part.status = .notEntered

/-- The target of the first branch that is taken. Branches that lead to no part still to come are
reported and not taken. -/
def chooseBranch (delivery : TestDelivery) (state : TestState) :
    List BranchRule → NotificationLog → Except LogicError (Option Identifier × NotificationLog)
  | [], log => .ok (none, log)
  | rule :: rest, log => do
    let (holds, notes) ← delivery.conditionsHold state [rule.expression]
    let log := log.extend notes
    if !holds then chooseBranch delivery state rest log
    -- a branch is taken only if it leads somewhere
    else if rule.target.isExitTest || isUpcoming state rule.target then
      return (some rule.target, log)
    else
      let source := "branchRule[" ++ rule.target.text ++ "]"
      chooseBranch delivery state rest (log.record ⟨.error, .lifecycle, source, .badBranchTarget⟩)

/-- Go where a branch leads to. -/
def follow (target : Option Identifier) (state : TestState) : TestState :=
  match target with
  | none => state
  | some target =>
    if target.isExitTest then { state with exitRequested := true }
    else { state with pendingBranch := some target }

/-- End the part that is under way: score what waits for it, run outcome processing, close all
items, and choose a branch. -/
def endPart (delivery : TestDelivery) (now : Timestamp) :
    TestAction (Step (Option Identifier)) := do
  let index ← delivery.activePart
  let plan := (← get).plan
  let part ← lookUp (delivery.part plan index)
  touch now
  delivery.suspendCurrent now
  let items := plan.itemsUnder index
  let log ← delivery.scoreItems now part.submission items delivery.newLog
  -- outcomes are computed while the items are still open
  let log := log.extend (← delivery.processOutcomes)
  delivery.closeItems now items
  modify fun state =>
    { state with
      parts := endAt index now state.parts
      currentPart := none
      currentItem := none }
  let (target, log) ← lookUp (delivery.chooseBranch (← get) part.branchRules log)
  modify (follow target)
  return ⟨target, log⟩

/-- Exit the test. Parts that are still to come are passed over. -/
def exit (delivery : TestDelivery) (now : Timestamp) : TestAction (Step Unit) := do
  delivery.requireInteracting
  requireNoOpenPart
  touch now
  modify fun state =>
    { state with
      parts := state.parts.map skipPart
      status := .exited
      endTime := some now
      lastEvent := none }
  return ⟨(), delivery.newLog⟩

end TestDelivery

end Assessment
