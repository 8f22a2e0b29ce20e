import Assessment.Notification

/-!
# Options

What a caller may choose about how sessions are run.
-/

namespace Assessment

/-- What happens to integers outside the range of words. -/
inductive OverflowPolicy where
  /-- The operator has no value. -/
  | fail
  /-- The nearer end of the range is taken. -/
  | saturate
  deriving DecidableEq

namespace OverflowPolicy

/-- The policies with their names. -/
def names : List (String × OverflowPolicy) := [("fail", fail), ("saturate", saturate)]

/-- The name of a policy. -/
def name : OverflowPolicy → String
  | fail => "fail"
  | saturate => "saturate"

end OverflowPolicy

/-- How sessions are run. -/
structure Options where
  /-- What happens to integers outside the range of words. -/
  overflow : OverflowPolicy
  /-- How often template processing is tried. -/
  maxTemplateAttempts : UInt32
  /-- The least level of notifications that are kept. -/
  level : Level
  /-- The seed where none is given. -/
  defaultSeed : UInt64
  deriving DecidableEq

namespace Options

/-- The options where nothing is chosen. -/
def default : Options := ⟨.fail, 100, .info, 0⟩

/-- Options as JSON. -/
def toJson (options : Options) : Json :=
  .obj [("integer_overflow", .str options.overflow.name),
    ("max_template_constraint_attempts", .ofNat options.maxTemplateAttempts.toNat),
    ("notification_level", .str options.level.name),
    ("default_random_seed", .ofNat options.defaultSeed.toNat)]

/-- The options that JSON writes. -/
def ofJson? (datum : Datum) : Option Options := do
  let fields ← datum.fields? ["integer_overflow", "max_template_constraint_attempts",
    "notification_level", "default_random_seed"]
  some ⟨← fields.required "integer_overflow" (Datum.oneOf? OverflowPolicy.names),
    ← fields.required "max_template_constraint_attempts" Datum.uint32?,
    ← fields.required "notification_level" (Datum.oneOf? Level.names),
    ← fields.required "default_random_seed" Datum.uint64?⟩

/-- The options that a JSON object writes; where it has no field, the default stands. -/
def ofPartialJson? : Datum → Option Options
  | ⟨.obj fields, place⟩ =>
    match default.toJson with
    | .obj base =>
      -- given fields are laid over the defaults, and then all have to be there
      ofJson? ⟨.obj (fields.foldl (fun all field => Json.setField field.1 field.2 all) base), place⟩
    | _ => none
  | _ => none

end Options

end Assessment
