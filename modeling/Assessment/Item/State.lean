import Assessment.Declaration.Basic
import Assessment.Digest.Basic
import Assessment.Fault
import Assessment.Time

/-!
# The state of an item session

What a session of one item keeps between calls. The values of its variables stand in three stores;
a store only holds variables that were put into it when the session was made.
-/

namespace Assessment

/-- The values of the variables of one role. -/
abbrev Store := SortedMap Identifier Value

namespace Store

/-- The store of some variables and their values. -/
def ofVariables (bindings : List (Identifier × Value)) : Store := SortedMap.ofList bindings

/-- The value of a variable. -/
def value (store : Store) (name : Identifier) : Except LogicError Value :=
  match store.get? name with
  | some value => .ok value
  | none => .error (.missingBinding name)

/-- Change the value of a variable. -/
def set (store : Store) (name : Identifier) (value : Value) : Except LogicError Store :=
  if store.contains name then .ok (store.insert name value) else .error (.missingBinding name)

theorem set_eq_ok_iff {store changed : Store} {name : Identifier} {value : Value} :
    store.set name value = .ok changed ↔
      store.contains name = true ∧ changed = store.insert name value := by
  unfold set
  split
  · rename_i h
    constructor
    · intro heq
      cases heq
      exact ⟨h, rfl⟩
    · rintro ⟨_, rfl⟩
      rfl
  · rename_i h
    simp [h]

end Store

/-- Where an item session stands. -/
inductive ItemStatus where
  /-- The item was not presented yet. -/
  | notEntered
  /-- The item is presented. -/
  | interacting
  /-- The session is over. -/
  | closed
  deriving DecidableEq

namespace ItemStatus

/-- The statuses with their names. -/
def names : List (String × ItemStatus) :=
  [("not_entered", notEntered), ("interacting", interacting), ("closed", closed)]

/-- The name of a status. -/
def name : ItemStatus → String
  | notEntered => "not_entered"
  | interacting => "interacting"
  | closed => "closed"

end ItemStatus

/-- What a session of one item keeps. -/
structure ItemState where
  /-- The digest of the item. -/
  digest : Digest
  /-- Where the session stands. -/
  status : ItemStatus
  /-- Whether template processing was done. -/
  templateProcessed : Bool
  /-- Whether the last attempt was scored. -/
  responseProcessed : Bool
  /-- Whether an attempt waits to be scored. -/
  pending : Bool
  /-- Whether an attempt was made. -/
  responded : Bool
  /-- The values of template variables. -/
  templates : Store
  /-- The values of response variables. -/
  responses : Store
  /-- The values of outcome variables. -/
  outcomes : Store
  /-- Values of template variables that stand in place of their defaults. -/
  templateDefaults : Store
  /-- Correct answers that stand in place of those declared. -/
  correctOverrides : Store
  /-- Defaults that stand in place of those declared. -/
  defaultOverrides : Store
  /-- When the item was presented first. -/
  entryTime : Option Timestamp
  /-- When the session ended. -/
  endTime : Option Timestamp
  /-- Since when time is counted; none while the session rests. -/
  lastEvent : Option Timestamp
  /-- The seed of the session. -/
  seed : UInt64
  /-- How many times rules were run with random numbers of their own. -/
  passes : UInt64
  deriving BEq

namespace ItemState

/-- How many attempts were made. -/
def attempts (state : ItemState) : Int64 :=
  ((state.responses.get? BuiltIn.numAttempts.identifier) >>= Value.word?).getD 0

/-- How many seconds the session has lasted. -/
def duration (state : ItemState) : Float :=
  ((state.responses.get? BuiltIn.duration.identifier) >>= Value.seconds?).getD 0.0

/-- How far the candidate has come. -/
def completion? (state : ItemState) : Option Completion :=
  (state.outcomes.get? BuiltIn.completionStatus.identifier) >>= Completion.ofValue?

/-- Whether the item was presented. -/
def isPresented (state : ItemState) : Bool := state.status ≠ .notEntered

/-- Whether the session is over. -/
def isClosed (state : ItemState) : Bool := state.status = .closed

/-- The value of a variable: an outcome, a response or a template variable. -/
def valueOf? (state : ItemState) (name : Identifier) : Option Value :=
  state.outcomes.get? name <|> state.responses.get? name <|> state.templates.get? name

/-! ### As JSON -/

/-- A store as JSON. -/
def storeJson (store : Store) : Json := store.toJson Value.toJson

/-- The store that JSON writes. -/
def storeOfJson? (datum : Datum) : Option Store := SortedMap.ofJson? Value.ofJson? datum

/-- A moment as JSON, null where there is none. -/
def timeJson (time : Option Timestamp) : Json := .ofOption Timestamp.toJson time

/-- A state as JSON. -/
def toJson (state : ItemState) : Json :=
  .obj [("definition_hash", state.digest.toJson), ("status", .str state.status.name),
    ("template_processed", .bool state.templateProcessed),
    ("response_processed", .bool state.responseProcessed),
    ("pending_response_processing", .bool state.pending), ("responded", .bool state.responded),
    ("template_values", storeJson state.templates), ("response_values", storeJson state.responses),
    ("outcome_values", storeJson state.outcomes),
    ("template_defaults", storeJson state.templateDefaults),
    ("correct_overrides", storeJson state.correctOverrides),
    ("default_overrides", storeJson state.defaultOverrides),
    ("entry_time", timeJson state.entryTime), ("end_time", timeJson state.endTime),
    ("last_event", timeJson state.lastEvent), ("random_seed", .ofNat state.seed.toNat),
    ("random_passes", .ofNat state.passes.toNat)]

/-- The names of the fields of a state. -/
def fieldNames : List String :=
  ["definition_hash", "status", "template_processed", "response_processed",
    "pending_response_processing", "responded", "template_values", "response_values",
    "outcome_values", "template_defaults", "correct_overrides", "default_overrides",
    "entry_time", "end_time", "last_event", "random_seed", "random_passes"]

/-- The state that JSON writes. -/
def ofJson? (datum : Datum) : Option ItemState := do
  let fields ← datum.fields? fieldNames
  some {
    digest := ← fields.required "definition_hash" Digest.ofJson?
    status := ← fields.required "status" (Datum.oneOf? ItemStatus.names)
    templateProcessed := ← fields.required "template_processed" Datum.bool?
    responseProcessed := ← fields.required "response_processed" Datum.bool?
    pending := ← fields.required "pending_response_processing" Datum.bool?
    responded := ← fields.required "responded" Datum.bool?
    templates := ← fields.required "template_values" storeOfJson?
    responses := ← fields.required "response_values" storeOfJson?
    outcomes := ← fields.required "outcome_values" storeOfJson?
    templateDefaults := ← fields.required "template_defaults" storeOfJson?
    correctOverrides := ← fields.required "correct_overrides" storeOfJson?
    defaultOverrides := ← fields.required "default_overrides" storeOfJson?
    entryTime := ← fields.nullable "entry_time" Timestamp.ofJson?
    endTime := ← fields.nullable "end_time" Timestamp.ofJson?
    lastEvent := ← fields.nullable "last_event" Timestamp.ofJson?
    seed := ← fields.required "random_seed" Datum.uint64?
    passes := ← fields.required "random_passes" Datum.uint64? }

end ItemState

end Assessment
