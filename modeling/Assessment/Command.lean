import Assessment.Configuration
import Assessment.Json.Reading
import Assessment.Json.Writing
import Assessment.Replay
import Assessment.Validation.Basic

/-!
# Commands

What can be asked for from outside of a program: whether a definition is usable, what a script
comes to, and what a configuration says. A command takes one text, a JSON object with a field for
each thing that it needs, and gives the canonical text of its answer.

## Main definitions

- `Command.ofArguments?`: the command that a list of words names.
- `Command.execute`: what a command gives for a text.
-/

namespace Assessment

/-- What can be asked for. -/
inductive Command where
  /-- Whether the field `item`, or without it the field `test`, holds a usable definition. -/
  | validate
  /-- What the field `script` comes to on the test of the field `test`. -/
  | run
  /-- What the field `config` says. -/
  | configuration
  deriving DecidableEq

/-- What a command gives. -/
structure CommandAnswer where
  /-- The canonical text of the answer. -/
  text : String
  /-- Whether the answer is a favourable one. -/
  accepted : Bool

/-- Why a command gives no answer. -/
inductive CommandError where
  /-- The text that it takes is no JSON. -/
  | illFormed
  /-- A thing that it needs is not there or is not what it should be. -/
  | unreadable (thing : String)
  /-- The configuration is refused. -/
  | configuration (error : ConfigurationError)
  /-- The script is refused. -/
  | replay (error : ReplayError)

/-- The message of an error. -/
def CommandError.message : CommandError → String
  | illFormed => "invalid input"
  | unreadable thing => "invalid " ++ thing
  | configuration error => "failed to load config: " ++ error.message
  | replay error => error.message

namespace Command

/-- The commands with their words. -/
def words : List (List String × Command) :=
  [(["validate"], .validate), (["run"], .run), (["config", "validate"], .configuration)]

/-- The command that a list of words names. -/
def ofArguments? (arguments : List String) : Option Command :=
  (words.find? (·.1 = arguments)).map (·.2)

/-- How commands are called. -/
def usage : String := "usage: (validate | run | config validate) < input.json"

/-- A thing that a command needs. -/
def need {α : Type} (input : Json) (name thing : String) (decode : Datum → Option α) :
    Except CommandError α :=
  match input.field? name >>= fun json => decode json with
  | some a => .ok a
  | none => .error (.unreadable thing)

/-- The configuration of a command; where nothing is written, the default one. -/
def configurationOf (input : Json) : Except CommandError Configuration :=
  match input.field? "config" with
  | some (.str text) => (Configuration.read text).mapError .configuration
  | some _ => .error (.unreadable "configuration")
  | none => .ok .default

/-- The findings of the definition that a command takes. -/
def findingsOf (input : Json) : Except CommandError Findings :=
  if (input.field? "item").isSome then do
    let item ← need input "item" "item definition" ItemDefinition.ofJson?
    return item.validate .empty
  else do
    let test ← need input "test" "test definition" TestDefinition.ofJson?
    return test.validate .empty

/-- What a command gives for a JSON value. -/
def answer (input : Json) : Command → Except CommandError CommandAnswer
  | validate => do
    let configuration ← configurationOf input
    let findings ← findingsOf input
    return ⟨findings.toJson.canonical, configuration.accepts findings⟩
  | run => do
    let configuration ← configurationOf input
    let test ← need input "test" "test definition" TestDefinition.ofJson?
    let script ← need input "script" "replay script" Script.ofJson?
    let delivery := TestDelivery.of test ⟨.empty, configuration.options⟩
    let report ← (delivery.replay script).mapError .replay
    return ⟨report.toJson.canonical, true⟩
  | configuration => do
    let configuration ← configurationOf input
    return ⟨configuration.toJson.canonical, true⟩

/-- What a command gives for a text. -/
def execute (command : Command) (text : String) : Except CommandError CommandAnswer :=
  match Json.read? text with
  | some input => command.answer input
  | none => .error .illFormed

end Command

end Assessment
