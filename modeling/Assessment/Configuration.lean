import Assessment.Options
import Assessment.Toml.Reading
import Assessment.Validation.Finding

/-!
# Configuration

What is configured for all sessions: the options of the engine, and whether definitions with
warnings are accepted. A configuration is written as a document of two tables, whose keys all have
defaults; unknown keys are refused.
-/

namespace Assessment

/-- What is configured for all sessions. -/
structure Configuration where
  /-- The options of the engine. -/
  options : Options
  /-- Whether warnings keep a definition from being accepted. -/
  warningsAsErrors : Bool
  deriving DecidableEq

/-- Why a text is no configuration. -/
inductive ConfigurationError where
  /-- It is no document, or not one of the known keys. -/
  | illFormed
  /-- The number of attempts at template processing is out of range. -/
  | attemptsOutOfRange
  deriving DecidableEq

namespace ConfigurationError

/-- The greatest number of attempts at template processing that may be configured. -/
def maxAttempts : Nat := 10000

/-- The message of an error. -/
def message : ConfigurationError → String
  | illFormed => "config parse error"
  | attemptsOutOfRange =>
    "invalid config: runtime.max_template_constraint_attempts must be between 1 and "
      ++ toString maxAttempts

end ConfigurationError

namespace Configuration

/-- The configuration where nothing is written. -/
def default : Configuration := ⟨.default, false⟩

/-- The options that a table writes. -/
def optionsOfJson? (datum : Datum) : Option Options := do
  let names := ["integer_overflow", "max_template_constraint_attempts", "notification_level",
    "default_random_seed"]
  let fields ← datum.fields? names
  if !fields.onlyKnown names then none
  some ⟨← fields.defaulted "integer_overflow" (Datum.oneOf? OverflowPolicy.names)
      Options.default.overflow,
    ← fields.defaulted "max_template_constraint_attempts" Datum.uint32?
      Options.default.maxTemplateAttempts,
    ← fields.defaulted "notification_level" (Datum.oneOf? Level.names) Options.default.level,
    ← fields.defaulted "default_random_seed" Datum.uint64? Options.default.defaultSeed⟩

/-- Whether warnings keep a definition from being accepted, as a table writes it. -/
def policyOfJson? (datum : Datum) : Option Bool := do
  let fields ← datum.fields? ["warnings_as_errors"]
  if !fields.onlyKnown ["warnings_as_errors"] then none
  fields.defaulted "warnings_as_errors" Datum.bool? false

/-- The configuration that a document writes. -/
def ofJson? (datum : Datum) : Option Configuration := do
  let fields ← datum.fields? ["runtime", "validation"]
  if !fields.onlyKnown ["runtime", "validation"] then none
  some ⟨← fields.defaulted "runtime" optionsOfJson? default.options,
    ← fields.defaulted "validation" policyOfJson? default.warningsAsErrors⟩

/-- A configuration as JSON. -/
def toJson (configuration : Configuration) : Json :=
  .obj [("runtime", configuration.options.toJson),
    ("validation", .obj [("warnings_as_errors", .bool configuration.warningsAsErrors)])]

/-- Whether the number of attempts is in range. -/
def isInRange (configuration : Configuration) : Bool :=
  let attempts := configuration.options.maxTemplateAttempts.toNat
  1 ≤ attempts && attempts ≤ ConfigurationError.maxAttempts

/-- The configuration that a text writes. -/
def read (text : String) : Except ConfigurationError Configuration :=
  match Toml.read? text >>= fun json => ofJson? ⟨json, .document⟩ with
  | none => .error .illFormed
  | some configuration =>
    -- a text that is no document is refused before its numbers are looked at
    if configuration.isInRange then .ok configuration else .error .attemptsOutOfRange

/-- Whether a definition with some findings is accepted. -/
def accepts (configuration : Configuration) (findings : Findings) : Bool :=
  findings.isValid && (!configuration.warningsAsErrors || findings.warnings.isEmpty)

end Configuration

end Assessment
