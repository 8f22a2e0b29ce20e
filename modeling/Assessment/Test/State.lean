import Assessment.Item.State
import Assessment.Test.Plan

/-!
# The state of a test session

What a session of one test keeps between calls: the plan of the test, how far each part has come,
the sessions of the items, and the outcomes of the test as a whole.
-/

namespace Assessment

/-- Where a test session stands. -/
inductive TestStatus where
  /-- The test was not entered yet. -/
  | notEntered
  /-- The test is under way. -/
  | interacting
  /-- The test is over. -/
  | exited
  deriving DecidableEq

namespace TestStatus

/-- The statuses with their names. -/
def names : List (String × TestStatus) :=
  [("not_entered", notEntered), ("interacting", interacting), ("exited", exited)]

/-- The name of a status. -/
def name : TestStatus → String
  | notEntered => "not_entered"
  | interacting => "interacting"
  | exited => "exited"

end TestStatus

/-- Where a part of a test stands. -/
inductive PartStatus where
  /-- The part is still to come. -/
  | notEntered
  /-- The part is under way. -/
  | interacting
  /-- The part is over. -/
  | ended
  /-- The part was passed over. -/
  | skipped
  deriving DecidableEq

namespace PartStatus

/-- The statuses with their names. -/
def names : List (String × PartStatus) :=
  [("not_entered", notEntered), ("interacting", interacting), ("ended", ended),
    ("skipped", skipped)]

/-- The name of a status. -/
def name : PartStatus → String
  | notEntered => "not_entered"
  | interacting => "interacting"
  | ended => "ended"
  | skipped => "skipped"

end PartStatus

/-- What a session keeps of a part of the test. -/
structure PartState where
  /-- The name of the part. -/
  identifier : Identifier
  /-- The node of the part in the plan. -/
  node : Nat
  /-- Where the part stands. -/
  status : PartStatus
  /-- When the part was entered. -/
  entryTime : Option Timestamp
  /-- When the part ended. -/
  endTime : Option Timestamp
  deriving DecidableEq

/-- What a session of one test keeps. -/
structure TestState where
  /-- The digest of the test. -/
  digest : Digest
  /-- The structure of the test. -/
  plan : TestPlan
  /-- Where the session stands. -/
  status : TestStatus
  /-- The sessions of the items, by the names of the references. -/
  items : SortedMap Identifier ItemState
  /-- The parts in the order of the plan. -/
  parts : List PartState
  /-- The node of the part that is under way. -/
  currentPart : Option Nat
  /-- The node of the item that is presented. -/
  currentItem : Option Nat
  /-- The values of the outcome variables of the test as a whole. -/
  outcomes : Store
  /-- How many times outcome processing was run. -/
  outcomeRuns : UInt64
  /-- The part that a branch leads to. -/
  pendingBranch : Option Identifier
  /-- Whether a rule or a branch ended the test. -/
  exitRequested : Bool
  /-- When the test was entered. -/
  entryTime : Option Timestamp
  /-- When the test was exited. -/
  endTime : Option Timestamp
  /-- Since when time is counted. -/
  lastEvent : Option Timestamp
  /-- The seed of the session. -/
  seed : UInt64
  /-- How many times rules were run with random numbers of their own. -/
  passes : UInt64
  deriving BEq

namespace PartState

/-- The state of a part as JSON. -/
def toJson (part : PartState) : Json :=
  .obj [("identifier", part.identifier.toJson), ("node", .ofNat part.node),
    ("status", .str part.status.name), ("entry_time", ItemState.timeJson part.entryTime),
    ("end_time", ItemState.timeJson part.endTime)]

/-- The state of a part that JSON writes. -/
def ofJson? (datum : Datum) : Option PartState := do
  let fields ← datum.fields? ["identifier", "node", "status", "entry_time", "end_time"]
  some ⟨← fields.required "identifier" Identifier.ofJson?, ← fields.required "node" Datum.nat?,
    ← fields.required "status" (Datum.oneOf? PartStatus.names),
    ← fields.nullable "entry_time" Timestamp.ofJson?,
    ← fields.nullable "end_time" Timestamp.ofJson?⟩

end PartState

namespace TestState

/-- How many seconds the session has lasted. -/
def duration (state : TestState) : Float :=
  ((state.outcomes.get? BuiltIn.duration.identifier) >>= Value.seconds?).getD 0.0

/-- The name of what a node stands for. -/
def nameOf? (state : TestState) (index : Nat) : Option Identifier :=
  state.plan.node? index >>= PlanNode.identifier?

/-- The name of the part that is under way. -/
def currentPartName? (state : TestState) : Option Identifier := state.currentPart >>= state.nameOf?

/-- The name of the item that is presented. -/
def currentItemName? (state : TestState) : Option Identifier := state.currentItem >>= state.nameOf?

/-- The part that is under way, if its state says so too. -/
def openPart? (state : TestState) : Option PartState :=
  state.parts.find? (·.status = .interacting)

/-! ### As JSON -/

/-- A state as JSON. -/
def toJson (state : TestState) : Json :=
  .obj [("definition_hash", state.digest.toJson), ("plan", state.plan.toJson),
    ("status", .str state.status.name), ("item_states", state.items.toJson ItemState.toJson),
    ("part_states", .ofList PartState.toJson state.parts),
    ("current_part", .ofOption Json.ofNat state.currentPart),
    ("current_item", .ofOption Json.ofNat state.currentItem),
    ("outcome_values", ItemState.storeJson state.outcomes),
    ("outcome_processing_runs", .ofNat state.outcomeRuns.toNat),
    ("pending_branch", .ofOption Identifier.toJson state.pendingBranch),
    ("exit_requested", .bool state.exitRequested),
    ("entry_time", ItemState.timeJson state.entryTime),
    ("end_time", ItemState.timeJson state.endTime),
    ("last_event", ItemState.timeJson state.lastEvent),
    ("random_seed", .ofNat state.seed.toNat), ("random_passes", .ofNat state.passes.toNat)]

/-- The names of the fields of a state. -/
def fieldNames : List String :=
  ["definition_hash", "plan", "status", "item_states", "part_states", "current_part",
    "current_item", "outcome_values", "outcome_processing_runs", "pending_branch",
    "exit_requested", "entry_time", "end_time", "last_event", "random_seed", "random_passes"]

/-- The state that JSON writes. -/
def ofJson? (datum : Datum) : Option TestState := do
  let fields ← datum.fields? fieldNames
  some {
    digest := ← fields.required "definition_hash" Digest.ofJson?
    plan := ← fields.required "plan" TestPlan.ofJson?
    status := ← fields.required "status" (Datum.oneOf? TestStatus.names)
    items := ← fields.required "item_states" (SortedMap.ofJson? ItemState.ofJson?)
    parts := ← fields.required "part_states" (Datum.list? PartState.ofJson?)
    currentPart := ← fields.nullable "current_part" Datum.nat?
    currentItem := ← fields.nullable "current_item" Datum.nat?
    outcomes := ← fields.required "outcome_values" ItemState.storeOfJson?
    outcomeRuns := ← fields.required "outcome_processing_runs" Datum.uint64?
    pendingBranch := ← fields.nullable "pending_branch" Identifier.ofJson?
    exitRequested := ← fields.required "exit_requested" Datum.bool?
    entryTime := ← fields.nullable "entry_time" Timestamp.ofJson?
    endTime := ← fields.nullable "end_time" Timestamp.ofJson?
    lastEvent := ← fields.nullable "last_event" Timestamp.ofJson?
    seed := ← fields.required "random_seed" Datum.uint64?
    passes := ← fields.required "random_passes" Datum.uint64? }

end TestState

end Assessment
