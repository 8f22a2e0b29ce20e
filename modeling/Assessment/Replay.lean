import Assessment.Test.Session

/-!
# Replaying sessions

A script is a list of steps of a candidate, each at a time. Replaying it runs the steps on a new
session, up to the first that is refused, and reports what the session has come to.
-/

namespace Assessment

/-- What a candidate does in a step. -/
inductive Operation where
  /-- Enter the test. -/
  | enterTest
  /-- Enter the next part. -/
  | enterPart
  /-- Go to an item of a part that is visited at will. -/
  | select (item : Identifier)
  /-- Go to the next item of a part that is visited in order. -/
  | advance
  /-- Submit responses to the current item. -/
  | respond (responses : SortedMap Identifier (List String))
  /-- End the part. -/
  | endPart
  /-- Exit the test. -/
  | exit

/-- The name of an operation. -/
def Operation.name : Operation → String
  | enterTest => "enter_test"
  | enterPart => "enter_next_part"
  | select _ => "select_item"
  | advance => "advance_item"
  | respond _ => "respond"
  | endPart => "end_part"
  | exit => "exit_test"

/-- A step of a script. -/
structure ScriptStep where
  /-- When it is made. -/
  time : UInt64
  /-- What is done. -/
  operation : Operation

/-- The steps of a candidate. -/
structure Script where
  /-- The seed of the session; the options give one if there is none. -/
  seed : Option UInt64
  /-- The steps in order. -/
  steps : List ScriptStep

namespace ScriptStep

/-- The operations without further fields, with their names. -/
def plain : List (String × Operation) :=
  [("enter_test", .enterTest), ("enter_next_part", .enterPart), ("advance_item", .advance),
    ("end_part", .endPart), ("exit_test", .exit)]

/-- The names of the operations. -/
def names : List String :=
  ["enter_test", "enter_next_part", "select_item", "advance_item", "respond", "end_part",
    "exit_test"]

/-- The step that JSON writes. -/
def ofJson? (datum : Datum) : Option ScriptStep := do
  let (name, body) ← datum.variant? "op" names
  match name with
  | "select_item" =>
    let fields ← body.fields? ["at", "item"]
    some ⟨← fields.required "at" Datum.uint64?,
      .select (← fields.required "item" Identifier.ofJson?)⟩
  | "respond" =>
    let fields ← body.fields? ["at", "responses"]
    some ⟨← fields.required "at" Datum.uint64?,
      .respond (← fields.required "responses" (SortedMap.ofJson? (Datum.list? Datum.str?)))⟩
  | name =>
    let (_, operation) ← plain.find? (·.1 = name)
    let fields ← body.fields? ["at"]
    some ⟨← fields.required "at" Datum.uint64?, operation⟩

end ScriptStep

/-- The script that JSON writes. -/
def Script.ofJson? (datum : Datum) : Option Script := do
  let fields ← datum.fields? ["seed", "operations"]
  if !fields.onlyKnown ["seed", "operations"] then none
  some ⟨← fields.optional "seed" Datum.uint64?,
    ← fields.required "operations" (Datum.list? ScriptStep.ofJson?)⟩

/-- What the session of an item has come to. -/
structure ItemReport where
  /-- Where the session stands. -/
  status : ItemStatus
  /-- How many attempts were made. -/
  attempts : Int64
  /-- The outcomes of the item. -/
  outcomes : Store

/-- What a session has come to. -/
structure Report where
  /-- The name of the test. -/
  test : Identifier
  /-- Where the session stands. -/
  status : TestStatus
  /-- The seed of the session. -/
  seed : UInt64
  /-- How many times outcome processing was run. -/
  outcomeRuns : UInt64
  /-- The outcomes of the test as a whole. -/
  outcomes : Store
  /-- The items by the names of the references. -/
  items : SortedMap Identifier ItemReport
  /-- All that the steps reported. -/
  log : NotificationLog

/-- What the session of an item has come to, as JSON. -/
def ItemReport.toJson (report : ItemReport) : Json :=
  .obj [("status", .str report.status.name), ("num_attempts", .int report.attempts.toInt),
    ("outcomes", ItemState.storeJson report.outcomes)]

/-- What a session has come to, as JSON. -/
def Report.toJson (report : Report) : Json :=
  .obj [("test", report.test.toJson), ("status", .str report.status.name),
    ("seed", .ofNat report.seed.toNat),
    ("outcome_processing_runs", .ofNat report.outcomeRuns.toNat),
    ("outcomes", ItemState.storeJson report.outcomes),
    ("items", report.items.toJson ItemReport.toJson),
    ("notifications", .ofList Notification.toJson report.log.entries)]

/-- Why a script cannot be replayed. -/
inductive ReplayError where
  /-- No session can be made. -/
  | setup (error : TestError)
  /-- A step is refused; those before it were made. -/
  | operation (position : Nat) (operation : Operation) (error : TestError)

namespace ReplayError

/-- The message of an error. -/
def message : ReplayError → String
  | setup error => "cannot start session: " ++ error.message
  | operation position refused error =>
    "operation " ++ toString position ++ " (" ++ refused.name ++ ") failed: " ++ error.message

/-- The name by which callers tell errors of a kind from others. -/
def kind : ReplayError → String
  | setup _ => "Setup"
  | operation _ _ _ => "Operation"

end ReplayError

namespace TestDelivery

/-- Make a step; gives what it reports. -/
def perform (delivery : TestDelivery) (step : ScriptStep) : TestAction NotificationLog := do
  let now := Timestamp.logical step.time
  match step.operation with
  | .enterTest => return (← delivery.enterTest now).log
  | .enterPart => return (← delivery.enterPart now).log
  | .select item => return (← delivery.select now item).log
  | .advance => return (← delivery.advance now).log
  | .respond responses =>
    return (← delivery.respond now (responses.mapValues ResponseData.strings)).log
  | .endPart => return (← delivery.endPart now).log
  | .exit => return (← delivery.exit now).log

/-- Make several steps, of which the first stands at a position of the script. -/
def performAll (delivery : TestDelivery) (position : Nat) (state : TestState)
    (log : NotificationLog) : List ScriptStep → Except ReplayError (TestState × NotificationLog)
  | [] => .ok (state, log)
  | step :: rest =>
    match (delivery.perform step).run.run state with
    | (.ok notes, state) => performAll delivery (position + 1) state (log.extend notes) rest
    -- steps behind the one that is refused are not made
    | (.error error, _) => .error (.operation position step.operation error)

/-- What a session has come to. -/
def report (delivery : TestDelivery) (seed : UInt64) (state : TestState) (log : NotificationLog) :
    Report where
  test := delivery.definition.identifier
  status := state.status
  seed
  outcomeRuns := state.outcomeRuns
  outcomes := state.outcomes
  items := state.items.mapValues fun item => ⟨item.status, item.attempts, item.outcomes⟩
  log

/-- Replay a script on a new session. -/
def replay (delivery : TestDelivery) (script : Script) : Except ReplayError Report := do
  -- a script may fix the seed, so that it can be replayed anywhere
  let seed := script.seed.getD delivery.engine.options.defaultSeed
  let state ← (delivery.create seed).mapError .setup
  let (state, log) ← delivery.performAll 0 state delivery.newLog script.steps
  return delivery.report seed state log

end TestDelivery

end Assessment
