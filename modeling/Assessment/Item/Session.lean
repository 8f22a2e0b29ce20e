import Assessment.Execution.Basic

/-!
# Item sessions

The course of one item with one candidate: template processing, presentation, attempts and their
scoring, until the session is closed. Time is counted while the session is not suspended.

Every operation is an action on the state of the session. It refuses a state that was made for
another item.

## Main definitions

- `ItemDelivery`: an item with the engine that runs its rules.
- `ItemDelivery.create`: a new session.
- `ItemDelivery.attempt`: bind the responses of an attempt and score it.
-/

namespace Assessment

/-- Why a value cannot stand in place of the default of a template variable. -/
inductive DefaultProblem where
  /-- The item has no such template variable. -/
  | undeclared
  /-- The value is of another type. -/
  | misfit (signature : Signature)

/-- The message of a problem. -/
def DefaultProblem.message : DefaultProblem → String
  | undeclared => "not a template variable"
  | misfit signature => "value does not fit " ++ signature.text

/-- Responses that were refused. -/
structure InvalidResponse where
  /-- The response variables with the reasons. -/
  failures : List (Identifier × ResponseProblem)
  /-- A notification for each of them. -/
  log : NotificationLog

/-- Why an operation on an item session is refused. -/
inductive ItemError where
  /-- The item was not presented yet. -/
  | notEntered
  /-- The session is over. -/
  | closed
  /-- No further attempt is allowed. -/
  | attemptsExhausted (max : UInt32)
  /-- Template processing was done before. -/
  | templateAlreadyProcessed
  /-- Template processing was not done yet. -/
  | templateNotProcessed
  /-- Responses were refused. -/
  | invalidResponse (invalid : InvalidResponse)
  /-- A value cannot stand in place of a default. -/
  | invalidTemplateDefault (identifier : Identifier) (problem : DefaultProblem)
  /-- The definition or the session does not hold together. -/
  | logic (error : LogicError)

/-- The message of an error. -/
def ItemError.message : ItemError → String
  | notEntered => "item session has not been entered"
  | closed => "item session is closed"
  | attemptsExhausted max => "no attempts remain (maximum " ++ toString max.toNat ++ ")"
  | templateAlreadyProcessed => "template processing has already run"
  | templateNotProcessed => "template processing has not run"
  | invalidResponse invalid =>
    "invalid responses: " ++ ", ".intercalate (invalid.failures.map (·.1.text))
  | invalidTemplateDefault identifier problem =>
    "invalid template default for " ++ identifier.text ++ ": " ++ problem.message
  | logic error => error.message

/-- The name by which callers tell errors of a kind from others. -/
def ItemError.kind : ItemError → String
  | notEntered => "NotEntered"
  | closed => "Closed"
  | attemptsExhausted _ => "AttemptsExhausted"
  | templateAlreadyProcessed => "TemplateAlreadyProcessed"
  | templateNotProcessed => "TemplateNotProcessed"
  | invalidResponse _ => "InvalidResponse"
  | invalidTemplateDefault _ _ => "InvalidTemplateDefault"
  | logic error => "Logic/" ++ error.kind

/-- How an attempt is taken. -/
structure SubmissionPolicy where
  /-- The greatest number of attempts; zero sets no limit. -/
  maxAttempts : UInt32
  /-- Whether every response has to be given. -/
  validateResponses : Bool
  /-- Whether scoring waits for a later call. -/
  deferred : Bool
  deriving DecidableEq

/-- An item with the engine that runs its rules. -/
structure ItemDelivery where
  /-- The item. -/
  definition : ItemDefinition
  /-- The engine. -/
  engine : Engine
  /-- The digest of the item. -/
  digest : Digest

/-- An operation on an item session. -/
abbrev ItemAction : Type → Type := Action ItemState ItemError

/-- A session that was started. -/
structure ItemStart where
  /-- The state of the session. -/
  state : ItemState
  /-- What template processing reported. -/
  log : NotificationLog
  /-- Whether an attempt is allowed. -/
  attemptAllowed : Bool

namespace ItemAction

/-- The result of a part that only fails with logic errors. -/
def ofLogic {α : Type} (inner : Action ItemState LogicError α) : ItemAction α :=
  inner.rename .logic

/-- Set a variable of a role. -/
def setVariable (role : Role) (name : Identifier) (value : Value) : ItemAction Unit :=
  ofLogic (ItemState.setAll role [(name, value)])

/-- Say how far the candidate has come. -/
def setCompletion (completion : Completion) : ItemAction Unit :=
  setVariable .outcome BuiltIn.completionStatus.identifier (.identifier completion.identifier)

end ItemAction

open ItemAction

namespace ItemDelivery

/-- An item with an engine. -/
def of (definition : ItemDefinition) (engine : Engine) : ItemDelivery :=
  ⟨definition, engine, definition.digest⟩

/-! ### A new session -/

/-- Why a value cannot stand in place of a default. -/
def defaultProblem? (delivery : ItemDelivery) (name : Identifier) (value : Value) :
    Option DefaultProblem :=
  match delivery.definition.template? name with
  | none => some .undeclared
  | some declaration =>
    if value.conforms declaration.signature then none else some (.misfit declaration.signature)

/-- The values that cannot stand in place of defaults. -/
def defaultProblems (delivery : ItemDelivery) (templateDefaults : Store) :
    List (Identifier × DefaultProblem) :=
  templateDefaults.toList.filterMap fun entry =>
    (delivery.defaultProblem? entry.1 entry.2).map (entry.1, ·)

/-- Put values in place of the defaults of template variables. -/
def putDefaults (templates : Store) : List (Identifier × Value) → Except LogicError Store
  | [] => .ok templates
  | (name, value) :: rest => do putDefaults (← templates.set name value) rest

/-- A new session. Some template variables may be given values in place of their defaults. -/
def create (delivery : ItemDelivery) (templateDefaults : Store) (seed : UInt64) :
    Except ItemError ItemState := do
  match delivery.defaultProblems templateDefaults with
  -- the first in order of the names is reported
  | (name, problem) :: _ => throw (.invalidTemplateDefault name problem)
  | [] => pure ()
  let definition := delivery.definition
  let declared := Store.ofVariables (definition.templates.map fun d => (d.identifier, d.initial))
  let templates ← match putDefaults declared templateDefaults.toList with
    | .ok templates => pure templates
    | .error error => throw (.logic error)
  let responses := Store.ofVariables (definition.responses.map fun d => (d.identifier, d.initial))
  let outcomes := Store.ofVariables (definition.outcomes.map fun d => (d.identifier, d.initial))
  let declare (store : Store) (builtIn : BuiltIn) : Store :=
    store.insert builtIn.identifier builtIn.initial
  return {
    digest := delivery.digest
    status := .notEntered
    templateProcessed := false
    responseProcessed := false
    pending := false
    responded := false
    templates
    responses := declare (declare responses .numAttempts) .duration
    outcomes := declare outcomes .completionStatus
    templateDefaults
    correctOverrides := .empty
    defaultOverrides := .empty
    entryTime := none
    endTime := none
    lastEvent := none
    seed
    passes := 0 }

/-! ### Steps that operations share -/

/-- Refuse a session of another item. -/
def check (delivery : ItemDelivery) : ItemAction Unit := do
  let found := (← get).digest
  if found = delivery.digest then pure ()
  else throw (.logic (.definitionMismatch delivery.digest.value found.value))

/-- Refuse a session that is not under way. -/
def requireInteracting : ItemAction Unit := do
  match (← get).status with
  | .notEntered => throw .notEntered
  | .closed => throw .closed
  | .interacting => pure ()

/-- The environment of the next pass. -/
def nextEnvironment (delivery : ItemDelivery) : ItemAction Environment := do
  let state ← get
  set { state with passes := state.passes + 1 }
  return .forPass state.seed state.passes delivery.engine.options.level

/-- The value that a variable gets when its store is reset. -/
def resetValue (state : ItemState) (name : Identifier) (initial : Value) : Value :=
  (state.defaultOverrides.get? name).getD initial

/-- Set all response variables to their defaults. -/
def resetResponses (delivery : ItemDelivery) : ItemAction Unit := do
  let state ← get
  ofLogic (ItemState.setAll .response (delivery.definition.responses.map fun d =>
    (d.identifier, resetValue state d.identifier d.initial)))

/-- Set all outcome variables to their defaults. -/
def resetOutcomes (delivery : ItemDelivery) : ItemAction Unit := do
  let state ← get
  ofLogic (ItemState.setAll .outcome (delivery.definition.outcomes.map fun d =>
    (d.identifier, resetValue state d.identifier d.initial)))

/-! ### Operations -/

/-- Run template processing, and set the responses and outcomes to their defaults. -/
def processTemplate (delivery : ItemDelivery) : ItemAction NotificationLog := do
  delivery.check
  let state ← get
  if state.isClosed then throw .closed
  if state.templateProcessed then throw .templateAlreadyProcessed
  let environment ← delivery.nextEnvironment
  -- the first pass begins as every further pass does
  ofLogic (ItemState.restartTemplates delivery.definition)
  let stage := ItemState.stage delivery.definition
  let rules := delivery.definition.templateProcessing
  let execution := Rule.executeTemplate delivery.engine stage rules
  let (_, log) ← ofLogic (execution.on environment)
  delivery.resetResponses
  delivery.resetOutcomes
  modify fun state => { state with templateProcessed := true }
  return log

/-- Count the time since the last event, if the session is under way and not suspended. -/
def touch (delivery : ItemDelivery) (now : Timestamp) : ItemAction Unit := do
  delivery.check
  let state ← get
  match state.status, state.lastEvent with
  | .interacting, some last => do
    match now.secondsSince? last with
    | some elapsed =>
      -- a clock that goes back takes no time away
      if 0.0 < elapsed then
        setVariable .response BuiltIn.duration.identifier (.duration (state.duration + elapsed))
    | none => pure ()
    modify fun state => { state with lastEvent := some now }
  | _, _ => pure ()

/-- Present the item, for the first time or again after it was suspended. -/
def enter (delivery : ItemDelivery) (now : Timestamp) : ItemAction Unit := do
  delivery.check
  let state ← get
  match state.status with
  | .closed => throw .closed
  | .notEntered => do
    set { state with status := .interacting, entryTime := some now, lastEvent := some now }
    if state.completion? = some .notAttempted then setCompletion .unknown
  | .interacting => do
    delivery.touch now
    -- a session that was suspended counts from now on
    modify fun state => { state with lastEvent := state.lastEvent <|> some now }

/-- Stop counting time. -/
def suspend (delivery : ItemDelivery) (now : Timestamp) : ItemAction Unit := do
  delivery.check
  requireInteracting
  delivery.touch now
  modify fun state => { state with lastEvent := none }

/-- Close the session. -/
def close (delivery : ItemDelivery) (now : Timestamp) : ItemAction Unit := do
  delivery.touch now
  let completion := (← get).completion?
  -- rules may have said something else, which then stands
  if completion = some .unknown ∨ completion = none then setCompletion .completed
  modify fun state => { state with status := .closed, endTime := some now, lastEvent := none }

/-- End a session that is not closed. -/
def endSession (delivery : ItemDelivery) (now : Timestamp) : ItemAction Unit := do
  delivery.check
  if (← get).isClosed then throw .closed
  delivery.close now

/-- Whether a further attempt is allowed. -/
def isAttemptAllowed (delivery : ItemDelivery) (state : ItemState) (maxAttempts : UInt32) :
    Bool :=
  !state.isClosed &&
    (delivery.definition.adaptive || maxAttempts = 0 ||
      state.attempts.toInt < Int.ofNat maxAttempts.toNat)

/-- Score the last attempt; the session is closed when no further one is to come. -/
def processResponse (delivery : ItemDelivery) (maxAttempts : UInt32) (now : Timestamp) :
    ItemAction NotificationLog := do
  delivery.check
  requireInteracting
  -- adaptive items go on from the scores of the last attempt
  if !delivery.definition.adaptive then delivery.resetOutcomes
  let environment ← delivery.nextEnvironment
  let stage := ItemState.stage delivery.definition
  let rules := delivery.definition.responseProcessing
  let (_, log) ← ofLogic ((Rule.execute delivery.engine stage rules).on environment)
  modify fun state => { state with responseProcessed := true, pending := false }
  if delivery.definition.adaptive then
    -- the rules of an adaptive item say when it is finished
    if (← get).completion? = some .completed then delivery.close now
  else do
    setCompletion .completed
    let attempts := (← get).attempts.toInt
    if 0 < maxAttempts ∧ Int.ofNat maxAttempts.toNat ≤ attempts then delivery.close now
  return log

/-! ### Attempts -/

/-- The value that response data gives to a response variable, or why it gives none. -/
def bindOne (delivery : ItemDelivery) (declaration : ResponseDeclaration) (data : ResponseData) :
    Except ResponseProblem Value := do
  let interaction := delivery.definition.interaction? declaration.identifier.text
  let value ← match interaction >>= (·.customClass) with
    | some className =>
      match delivery.engine.registry.interaction? className with
      | some (_, custom) =>
        match custom.bind declaration data with
        | .ok value => .ok value
        | .error error => .error (.refused error)
      | none => .error (.unsupported className)
    | none =>
      match Value.ofResponse declaration.signature data with
      | .ok value => .ok value
      | .error error => .error (.unreadable error)
  -- an extension may answer with a value of any type
  if value.conforms declaration.signature then .ok value
  else .error (.misfit declaration.signature)

/-- The value that response data gives to the response variable of a name. -/
def bindNamed (delivery : ItemDelivery) (name : Identifier) (data : ResponseData) :
    Except ResponseProblem Value :=
  match delivery.definition.response? name with
  | some declaration => delivery.bindOne declaration data
  | none => .error .undeclared

/-- The responses that are missing where all have to be given. -/
def missingResponses (delivery : ItemDelivery) (responses : SortedMap Identifier ResponseData)
    (validate : Bool) : List (Identifier × ResponseProblem) :=
  if validate then
    (delivery.definition.responses.filter fun d => !responses.contains d.identifier).map fun d =>
      (d.identifier, .missing)
  else []

/-- The values that responses give, in order of the names, or all that is wrong with them. -/
def bindResponses (delivery : ItemDelivery) (responses : SortedMap Identifier ResponseData)
    (validate : Bool) : Except InvalidResponse (List (Identifier × Value)) :=
  let results := responses.toList.map fun entry => (entry.1, delivery.bindNamed entry.1 entry.2)
  let bound := results.filterMap fun
    | (name, .ok value) => some (name, value)
    | _ => none
  let refused := results.filterMap fun
    | (name, .error problem) => some (name, problem)
    | _ => none
  let failures := refused ++ delivery.missingResponses responses validate
  if failures.isEmpty then .ok bound
  else
    let log := failures.foldl (fun (log : NotificationLog) failure =>
      log.record ⟨.error, .response, failure.1.text, .response failure.2⟩)
      (.empty delivery.engine.options.level)
    .error ⟨failures, log⟩

/-- Make an attempt: bind the responses, count the attempt, and score it unless that is to wait. -/
def attempt (delivery : ItemDelivery) (responses : SortedMap Identifier ResponseData)
    (now : Timestamp) (policy : SubmissionPolicy) : ItemAction NotificationLog := do
  delivery.check
  requireInteracting
  let state ← get
  if !state.templateProcessed then throw .templateNotProcessed
  if !delivery.isAttemptAllowed state policy.maxAttempts then
    throw (.attemptsExhausted policy.maxAttempts)
  -- everything that can refuse the responses comes before the first change
  let bound ← match delivery.bindResponses responses policy.validateResponses with
    | .ok bound => pure bound
    | .error invalid => throw (.invalidResponse invalid)
  delivery.touch now
  ofLogic (ItemState.setAll .response bound)
  -- the attempt is counted even if it is scored later
  let attempts := Word.succSaturating (← get).attempts
  setVariable .response BuiltIn.numAttempts.identifier (.integer attempts)
  modify fun state => { state with responded := true, responseProcessed := false }
  if policy.deferred then do
    modify fun state => { state with pending := true }
    return .empty delivery.engine.options.level
  else delivery.processResponse policy.maxAttempts now

/-- A new session with template processing done and the item presented. -/
def start (delivery : ItemDelivery) (templateDefaults : Store) (seed : UInt64) (now : Timestamp)
    (maxAttempts : UInt32) : Except ItemError ItemStart := do
  let state ← delivery.create templateDefaults seed
  let course : ItemAction NotificationLog := do
    let log ← delivery.processTemplate
    delivery.enter now
    return log
  match course.run.run state with
  | (.ok log, state) => .ok ⟨state, log, delivery.isAttemptAllowed state maxAttempts⟩
  | (.error error, _) => .error error

end ItemDelivery

end Assessment
