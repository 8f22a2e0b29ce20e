import Assessment.Json.Decoding

/-!
# How items of a test are taken

Modes of navigation and submission, and the control of item sessions. Control is written on test
parts, sections and references to items; what is left open is taken from the next outer one.
-/

namespace Assessment

/-- The order in which the items of a part are visited. -/
inductive NavigationMode where
  /-- One after the other, and never back. -/
  | linear
  /-- As the candidate likes. -/
  | nonlinear
  deriving DecidableEq

/-- When the items of a part are scored. -/
inductive SubmissionMode where
  /-- After each attempt. -/
  | individual
  /-- When the part ends. -/
  | simultaneous
  deriving DecidableEq

/-- Control of item sessions as far as it is written at one place. -/
structure ItemSessionControl where
  /-- The greatest number of attempts; zero sets no limit. -/
  maxAttempts : Option UInt32
  /-- Whether an item may be left without an answer. -/
  allowSkipping : Option Bool
  /-- Whether every response has to be given. -/
  validateResponses : Option Bool
  deriving DecidableEq

/-- Control of the session of one item. -/
structure EffectiveControl where
  /-- The greatest number of attempts; zero sets no limit. -/
  maxAttempts : UInt32
  /-- Whether the item may be left without an answer. -/
  allowSkipping : Bool
  /-- Whether every response has to be given. -/
  validateResponses : Bool
  deriving DecidableEq

namespace NavigationMode

/-- The navigation modes with their names. -/
def names : List (String × NavigationMode) := [("linear", linear), ("nonlinear", nonlinear)]

/-- The name of a navigation mode. -/
def name : NavigationMode → String
  | linear => "linear"
  | nonlinear => "nonlinear"

end NavigationMode

namespace SubmissionMode

/-- The submission modes with their names. -/
def names : List (String × SubmissionMode) :=
  [("individual", individual), ("simultaneous", simultaneous)]

/-- The name of a submission mode. -/
def name : SubmissionMode → String
  | individual => "individual"
  | simultaneous => "simultaneous"

end SubmissionMode

namespace ItemSessionControl

/-- Control as JSON. -/
def toJson (control : ItemSessionControl) : Json :=
  .obj [("max_attempts", .ofOption (fun n => .ofNat n.toNat) control.maxAttempts),
    ("allow_skipping", .ofOption Json.bool control.allowSkipping),
    ("validate_responses", .ofOption Json.bool control.validateResponses)]

/-- The control that JSON writes. -/
def ofJson? (datum : Datum) : Option ItemSessionControl := do
  let fields ← datum.fields? ["max_attempts", "allow_skipping", "validate_responses"]
  some ⟨← fields.optional "max_attempts" Datum.uint32?,
    ← fields.optional "allow_skipping" Datum.bool?,
    ← fields.optional "validate_responses" Datum.bool?⟩

end ItemSessionControl

namespace EffectiveControl

/-- The control where nothing is written: one attempt, which may be left out. -/
def default : EffectiveControl := ⟨1, true, false⟩

/-- Replace the fields that are written further in. -/
def inherit (outer : EffectiveControl) : Option ItemSessionControl → EffectiveControl
  | none => outer
  | some inner =>
    ⟨inner.maxAttempts.getD outer.maxAttempts, inner.allowSkipping.getD outer.allowSkipping,
      inner.validateResponses.getD outer.validateResponses⟩

/-- Control as JSON. -/
def toJson (control : EffectiveControl) : Json :=
  .obj [("max_attempts", .ofNat control.maxAttempts.toNat),
    ("allow_skipping", .bool control.allowSkipping),
    ("validate_responses", .bool control.validateResponses)]

/-- The control that JSON writes. -/
def ofJson? (datum : Datum) : Option EffectiveControl := do
  let fields ← datum.fields? ["max_attempts", "allow_skipping", "validate_responses"]
  some ⟨← fields.required "max_attempts" Datum.uint32?,
    ← fields.required "allow_skipping" Datum.bool?,
    ← fields.required "validate_responses" Datum.bool?⟩

end EffectiveControl

end Assessment
