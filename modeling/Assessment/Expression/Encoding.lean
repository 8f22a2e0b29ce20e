import Assessment.Expression.Basic

/-!
# Expressions as JSON

Expressions are told apart by the tag `kind`; the operands of an operator are a list. Reading goes
down at most as deep as the JSON value is nested.
-/

namespace Assessment

namespace ItemSubset

/-- The fields of a subset. -/
def names : List String := ["section_identifier", "include_category", "exclude_category"]

/-- The fields of a subset as JSON. -/
def fieldsJson (subset : ItemSubset) : List (String × Json) :=
  [("section_identifier", .ofOption Identifier.toJson subset.within),
    ("include_category", .ofList Identifier.toJson subset.including),
    ("exclude_category", .ofList Identifier.toJson subset.excluding)]

/-- A subset as JSON. -/
def toJson (subset : ItemSubset) : Json := .obj subset.fieldsJson

/-- The subset that JSON writes. -/
def ofJson? (datum : Datum) : Option ItemSubset := do
  let fields ← datum.fields? names
  some ⟨← fields.optional "section_identifier" Identifier.ofJson?,
    ← fields.defaulted "include_category" (Datum.list? Identifier.ofJson?) [],
    ← fields.defaulted "exclude_category" (Datum.list? Identifier.ofJson?) []⟩

end ItemSubset

namespace Expression

/-- The counting aggregates with their tags. -/
def countTags : List (String × ItemCount) :=
  [("number_correct", .correct), ("number_incorrect", .incorrect),
    ("number_presented", .presented), ("number_responded", .responded),
    ("number_selected", .selected)]

/-- The tag of a counting aggregate. -/
def countTag : ItemCount → String
  | .correct => "number_correct"
  | .incorrect => "number_incorrect"
  | .presented => "number_presented"
  | .responded => "number_responded"
  | .selected => "number_selected"

/-- The tag of an aggregate over bounds. -/
def boundTag : OutcomeBound → String
  | .minimum => "outcome_minimum"
  | .maximum => "outcome_maximum"

mutual

/-- An expression as JSON. -/
def toJson : Expression → Json
  | baseValue scalar => .tagged "kind" "base_value" [("value", scalar.toJson)]
  | null => .tagged "kind" "null" []
  | valueOf identifier weight =>
    .tagged "kind" "variable" [("identifier", identifier.toJson),
      ("weight_identifier", .ofOption Identifier.toJson weight)]
  | defaultOf identifier => .tagged "kind" "default" [("identifier", identifier.toJson)]
  | correctOf identifier => .tagged "kind" "correct" [("identifier", identifier.toJson)]
  | mapResponse identifier => .tagged "kind" "map_response" [("identifier", identifier.toJson)]
  | mapResponsePoint identifier =>
    .tagged "kind" "map_response_point" [("identifier", identifier.toJson)]
  | mathConstant constant =>
    .tagged "kind" "math_constant"
      [("constant", .str (match constant with | .pi => "pi" | .e => "e"))]
  | randomInteger least greatest step =>
    .tagged "kind" "random_integer" [("min", .int least.toInt), ("max", .int greatest.toInt),
      ("step", .int step.toInt)]
  | randomFloat least greatest =>
    .tagged "kind" "random_float" [("min", .ofFloat least), ("max", .ofFloat greatest)]
  | countItems count subset => .tagged "kind" (countTag count) subset.fieldsJson
  | testVariables identifier weight baseType subset =>
    .tagged "kind" "test_variables" [("variable_identifier", identifier.toJson),
      ("weight_identifier", .ofOption Identifier.toJson weight),
      ("base_type", .ofOption BaseType.toJson baseType), ("subset", subset.toJson)]
  | outcomeBounds bound identifier weight subset =>
    .tagged "kind" (boundTag bound) [("outcome_identifier", identifier.toJson),
      ("weight_identifier", .ofOption Identifier.toJson weight), ("subset", subset.toJson)]
  | apply operator operands =>
    .tagged "kind" "operator" [("operator", operator.toJson),
      ("operands", .arr (toJsonAll operands))]
  | custom className operands =>
    .tagged "kind" "custom" [("class", .str className), ("operands", .arr (toJsonAll operands))]

/-- Several expressions as JSON. -/
def toJsonAll : List Expression → List Json
  | [] => []
  | first :: rest => toJson first :: toJsonAll rest

end

/-- The tags of expressions. -/
def tags : List String :=
  ["base_value", "null", "variable", "default", "correct", "map_response", "map_response_point",
    "math_constant", "random_integer", "random_float", "number_correct", "number_incorrect",
    "number_presented", "number_responded", "number_selected", "test_variables",
    "outcome_minimum", "outcome_maximum", "operator", "custom"]

/-- The expression without operands that JSON writes. -/
def leafOfJson? (name : String) (body : Datum) : Option Expression :=
  match name with
  | "base_value" => do
    let fields ← body.fields? ["value"]
    some (baseValue (← fields.required "value" Scalar.ofJson?))
  | "null" => if body.noFields then some null else none
  | "variable" => do
    let fields ← body.fields? ["identifier", "weight_identifier"]
    some (valueOf (← fields.required "identifier" Identifier.ofJson?)
      (← fields.optional "weight_identifier" Identifier.ofJson?))
  | "default" => do
    let fields ← body.fields? ["identifier"]
    some (defaultOf (← fields.required "identifier" Identifier.ofJson?))
  | "correct" => do
    let fields ← body.fields? ["identifier"]
    some (correctOf (← fields.required "identifier" Identifier.ofJson?))
  | "map_response" => do
    let fields ← body.fields? ["identifier"]
    some (mapResponse (← fields.required "identifier" Identifier.ofJson?))
  | "map_response_point" => do
    let fields ← body.fields? ["identifier"]
    some (mapResponsePoint (← fields.required "identifier" Identifier.ofJson?))
  | "math_constant" => do
    let fields ← body.fields? ["constant"]
    some (mathConstant (← fields.required "constant"
      (Datum.oneOf? [("pi", MathConstant.pi), ("e", MathConstant.e)])))
  | "random_integer" => do
    let fields ← body.fields? ["min", "max", "step"]
    some (randomInteger (← fields.defaulted "min" Datum.word? 0)
      (← fields.required "max" Datum.word?) (← fields.defaulted "step" Datum.word? 1))
  | "random_float" => do
    let fields ← body.fields? ["min", "max"]
    some (randomFloat (← fields.defaulted "min" Datum.float? 0.0)
      (← fields.required "max" Datum.float?))
  | "test_variables" => do
    let fields ← body.fields? ["variable_identifier", "weight_identifier", "base_type", "subset"]
    some (testVariables (← fields.required "variable_identifier" Identifier.ofJson?)
      (← fields.optional "weight_identifier" Identifier.ofJson?)
      (← fields.optional "base_type" BaseType.ofJson?)
      (← fields.defaulted "subset" ItemSubset.ofJson? .all))
  | "outcome_minimum" => outcomeBoundsOfJson? .minimum body
  | "outcome_maximum" => outcomeBoundsOfJson? .maximum body
  | name => do
    let (_, count) ← countTags.find? (·.1 = name)
    some (countItems count (← ItemSubset.ofJson? body))
where
  /-- The aggregate over bounds that JSON writes. -/
  outcomeBoundsOfJson? (bound : OutcomeBound) (body : Datum) : Option Expression := do
    let fields ← body.fields? ["outcome_identifier", "weight_identifier", "subset"]
    some (outcomeBounds bound (← fields.required "outcome_identifier" Identifier.ofJson?)
      (← fields.optional "weight_identifier" Identifier.ofJson?)
      (← fields.defaulted "subset" ItemSubset.ofJson? .all))

/-- The expression that JSON writes, if its tree is no deeper than a bound. -/
def ofJsonWithin : Nat → Datum → Option Expression
  | 0, _ => none
  | depth + 1, datum => do
    let (name, body) ← datum.variant? "kind" tags
    match name with
    | "operator" =>
      let fields ← body.fields? ["operator", "operands"]
      some (apply (← fields.required "operator" Operator.ofJson?)
        (← fields.defaulted "operands" (Datum.list? (ofJsonWithin depth)) []))
    | "custom" =>
      let fields ← body.fields? ["class", "operands"]
      some (custom (← fields.required "class" Datum.str?)
        (← fields.defaulted "operands" (Datum.list? (ofJsonWithin depth)) []))
    | _ => leafOfJson? name body

/-- The expression that JSON writes. -/
def ofJson? (datum : Datum) : Option Expression := ofJsonWithin datum.json.depth datum

end Expression

end Assessment
