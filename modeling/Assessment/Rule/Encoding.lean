import Assessment.Rule.Basic

/-!
# Processing rules as JSON

Rules are told apart by the tag `rule`.
-/

namespace Assessment

namespace ExitScope

/-- The name of an exit scope. -/
def name : ExitScope → String
  | template => "template"
  | response => "response"
  | test => "test"

/-- The exit scopes with their names. -/
def names : List (String × ExitScope) :=
  [("template", .template), ("response", .response), ("test", .test)]

end ExitScope

/-- The name of how a run of rules ended. -/
def Ending.name : Ending → String
  | .completed => "completed"
  | .exited scope => "exited_" ++ scope.name

namespace Target

/-- The targets with the tags of the rules that assign them. -/
def tags : List (String × Target) :=
  [("set_outcome_value", .outcomeValue), ("set_response_value", .responseValue),
    ("set_template_value", .templateValue), ("set_correct_response", .correctResponse),
    ("set_default_value", .defaultValue), ("lookup_outcome_value", .lookupOutcome)]

/-- The tag of the rule that assigns a target. -/
def tag : Target → String
  | outcomeValue => "set_outcome_value"
  | responseValue => "set_response_value"
  | templateValue => "set_template_value"
  | correctResponse => "set_correct_response"
  | defaultValue => "set_default_value"
  | lookupOutcome => "lookup_outcome_value"

end Target

namespace Rule

mutual

/-- A rule as JSON. -/
def toJson : Rule → Json
  | assign target identifier expression =>
    .tagged "rule" target.tag
      [("identifier", identifier.toJson), ("expression", expression.toJson)]
  | condition branches none =>
    .tagged "rule" "condition" [("branches", .arr (branchesToJson branches)), ("otherwise", .null)]
  | condition branches (some otherwise) =>
    .tagged "rule" "condition"
      [("branches", .arr (branchesToJson branches)), ("otherwise", .arr (toJsonAll otherwise))]
  | exit scope => .tagged "rule" "exit" [("scope", .str scope.name)]
  | constraint expression =>
    .tagged "rule" "template_constraint" [("expression", expression.toJson)]

/-- Several rules as JSON. -/
def toJsonAll : List Rule → List Json
  | [] => []
  | first :: rest => toJson first :: toJsonAll rest

/-- The branches of a condition as JSON. -/
def branchesToJson : List Branch → List Json
  | [] => []
  | .mk test rules :: rest =>
    .obj [("test", test.toJson), ("rules", .arr (toJsonAll rules))] :: branchesToJson rest

end

/-- The tags of rules. -/
def tags : List String :=
  Target.tags.map (·.1) ++ ["condition", "exit", "template_constraint"]

/-- The rule that JSON writes, if its tree is no deeper than a bound. -/
def ofJsonWithin : Nat → Datum → Option Rule
  | 0, _ => none
  | depth + 1, datum => do
    let (name, body) ← datum.variant? "rule" tags
    match name with
    | "condition" =>
      let fields ← body.fields? ["branches", "otherwise"]
      let rules := Datum.list? (ofJsonWithin depth)
      let branch := fun datum => do
        let fields ← Datum.fields? ["test", "rules"] datum
        some (Branch.mk (← fields.required "test" Expression.ofJson?)
          (← fields.defaulted "rules" rules []))
      some (condition (← fields.required "branches" (Datum.list? branch))
        (← fields.optional "otherwise" rules))
    | "exit" =>
      let fields ← body.fields? ["scope"]
      some (exit (← fields.required "scope" (Datum.oneOf? ExitScope.names)))
    | "template_constraint" =>
      let fields ← body.fields? ["expression"]
      some (constraint (← fields.required "expression" Expression.ofJson?))
    | name =>
      let (_, target) ← Target.tags.find? (·.1 = name)
      let fields ← body.fields? ["identifier", "expression"]
      some (assign target (← fields.required "identifier" Identifier.ofJson?)
        (← fields.required "expression" Expression.ofJson?))

/-- The rule that JSON writes. -/
def ofJson? (datum : Datum) : Option Rule := ofJsonWithin datum.json.depth datum

end Rule

end Assessment
