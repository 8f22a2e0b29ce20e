import Assessment.Fault

/-!
# Notifications

What a call reports besides its result. A log keeps notifications from a level on and forgets those
below it.
-/

namespace Assessment

/-- How grave a notification is. -/
inductive Level where
  /-- Nothing is wrong. -/
  | info
  /-- Something is left out. -/
  | warning
  /-- Something failed. -/
  | error
  deriving DecidableEq

namespace Level

/-- The place of a level in the order of gravity. -/
def rank : Level → Nat
  | info => 0
  | warning => 1
  | error => 2

/-- The levels with their names. -/
def names : List (String × Level) := [("info", info), ("warning", warning), ("error", error)]

/-- The name of a level. -/
def name : Level → String
  | info => "info"
  | warning => "warning"
  | error => "error"

end Level

/-- What a notification is about. -/
inductive NotificationKind where
  /-- The evaluation of an expression. -/
  | evaluation
  /-- The run of a rule. -/
  | execution
  /-- The binding of a response. -/
  | response
  /-- The course of a session. -/
  | lifecycle
  /-- The construction of a definition. -/
  | construction
  deriving DecidableEq

namespace NotificationKind

/-- The kinds with their names. -/
def names : List (String × NotificationKind) :=
  [("evaluation", evaluation), ("execution", execution), ("response", response),
    ("lifecycle", lifecycle), ("construction", construction)]

/-- The name of a kind. -/
def name : NotificationKind → String
  | evaluation => "evaluation"
  | execution => "execution"
  | response => "response"
  | lifecycle => "lifecycle"
  | construction => "construction"

end NotificationKind

/-- What a notification says. -/
inductive Message where
  /-- The words of a caller. -/
  | words (text : String)
  /-- An expression has no value. -/
  | fault (fault : RuntimeFault)
  /-- No extension has the operator; its value is nothing. -/
  | unsupportedOperator (className : String)
  /-- No extension has the operator; its value will be nothing. -/
  | unsupportedConstruction (className : String)
  /-- A constraint of a template was false in the last pass. -/
  | constraintRelaxed
  /-- A constraint stands outside of template processing. -/
  | constraintIgnored
  /-- The test of a branch is no truth value. -/
  | notBoolean (value : Value)
  /-- A rule does not assign. -/
  | assignment (problem : AssignmentProblem)
  /-- A response is refused. -/
  | response (problem : ResponseProblem)
  /-- A part of a test is passed over. -/
  | partSkipped
  /-- An item is passed over. -/
  | itemSkipped
  /-- A branch leads to no part that is still to come. -/
  | badBranchTarget

/-- The text of a message. -/
def Message.text : Message → String
  | words text => text
  | fault f => f.message
  | unsupportedOperator className =>
    "custom operator " ++ className ++ " is not supported; result is NULL"
  | unsupportedConstruction _ => "unsupported custom operator; it will evaluate to NULL"
  | constraintRelaxed =>
    "template constraint still unsatisfied after the retry limit; keeping the last pass"
  | constraintIgnored => "template constraint outside template processing is ignored"
  | notBoolean value =>
    "condition is not a single boolean: " ++ value.text
  | assignment problem => problem.message
  | response problem => problem.message
  | partSkipped => "test part skipped by pre-condition"
  | itemSkipped => "item skipped by pre-condition"
  | badBranchTarget => "branch target is not an upcoming test part"

/-- A report of something that happened. -/
structure Notification where
  /-- How grave it is. -/
  level : Level
  /-- What it is about. -/
  kind : NotificationKind
  /-- Where it comes from. -/
  source : String
  /-- What it says. -/
  message : Message

/-- A notification as JSON. -/
def Notification.toJson (notification : Notification) : Json :=
  .obj [("level", .str notification.level.name), ("kind", .str notification.kind.name),
    ("source", .str notification.source), ("message", .str notification.message.text)]

/-- The notifications from a level on. -/
structure NotificationLog where
  /-- The least level that is kept. -/
  minLevel : Level
  /-- The notifications in the order in which they were recorded. -/
  entries : List Notification

namespace NotificationLog

/-- A log without notifications. -/
def empty (minLevel : Level) : NotificationLog := ⟨minLevel, []⟩

/-- Whether a log keeps notifications of a level. -/
def keeps (log : NotificationLog) (level : Level) : Bool := log.minLevel.rank ≤ level.rank

/-- Record a notification. -/
def record (log : NotificationLog) (notification : Notification) : NotificationLog :=
  if log.keeps notification.level then
    { log with entries := log.entries ++ [notification] }
  else log

/-- Append the notifications of another log. -/
def extend (log other : NotificationLog) : NotificationLog :=
  -- the other log may have kept more than this one does
  { log with entries := log.entries ++ other.entries.filter fun entry => log.keeps entry.level }

/-- Whether there are no notifications. -/
def isEmpty (log : NotificationLog) : Bool := log.entries.isEmpty

/-- How many notifications there are of a level. -/
def count (log : NotificationLog) (level : Level) : Nat :=
  log.entries.countP (·.level = level)

/-- Whether there is a notification that something failed. -/
def hasErrors (log : NotificationLog) : Bool := 0 < log.count .error

@[simp]
theorem extend_empty (log : NotificationLog) (level : Level) : log.extend (empty level) = log := by
  simp [extend, empty]

theorem keeps_record (log : NotificationLog) (notification : Notification) (level : Level) :
    (log.record notification).keeps level = log.keeps level := by
  unfold record
  split <;> rfl

end NotificationLog

end Assessment
