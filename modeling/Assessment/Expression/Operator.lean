import Assessment.Shape
import Assessment.Value.Encoding

/-!
# Operators

The built-in operators of expressions with their attributes, their names and the numbers of
operands they take.
-/

namespace Assessment

/-- How close two numbers have to be to count as equal. -/
inductive ToleranceMode where
  /-- They have to be the same. -/
  | exact
  /-- Their distance is bounded. -/
  | absolute
  /-- Their distance is bounded by a percentage. -/
  | relative
  deriving DecidableEq

/-- What rounding keeps. -/
inductive RoundingMode where
  /-- A number of significant figures. -/
  | significantFigures
  /-- A number of decimal places. -/
  | decimalPlaces
  deriving DecidableEq

/-- The name of a rounding mode. -/
def RoundingMode.name : RoundingMode → String
  | .significantFigures => "significantFigures"
  | .decimalPlaces => "decimalPlaces"

/-- A test for equality of numbers. -/
structure EqualityTest where
  /-- What the tolerance means. -/
  mode : ToleranceMode
  /-- The tolerance below and above; one number serves both ways. -/
  tolerance : List Float
  /-- Whether the lower bound itself is in. -/
  includeLower : Bool
  /-- Whether the upper bound itself is in. -/
  includeUpper : Bool

/-- How many operands are taken. -/
structure Arity where
  /-- The least number. -/
  least : Nat
  /-- The greatest number, if there is one. -/
  greatest : Option Nat

namespace Arity

/-- A fixed number of operands. -/
def exactly (count : Nat) : Arity := ⟨count, some count⟩

/-- Any number of operands from one on. -/
def atLeast (count : Nat) : Arity := ⟨count, none⟩

/-- Whether a number of operands is taken. -/
def accepts (arity : Arity) (count : Nat) : Bool :=
  arity.least ≤ count &&
    match arity.greatest with
    | some greatest => count ≤ greatest
    | none => true

/-- The words for an arity. -/
def text (arity : Arity) : String :=
  match arity.greatest with
  | some greatest =>
    if greatest = arity.least then "exactly " ++ toString greatest
    else toString arity.least ++ " to " ++ toString greatest
  | none => "at least " ++ toString arity.least

end Arity

/-- The order that a comparison asks for. -/
inductive Comparison where
  /-- The first is less. -/
  | lt
  /-- The first is greater. -/
  | gt
  /-- The first is not greater. -/
  | lte
  /-- The first is not less. -/
  | gte
  deriving DecidableEq

/-- A built-in operator. -/
inductive Operator where
  /-- A container without order of all operands. -/
  | multiple
  /-- A container with order of all operands. -/
  | ordered
  /-- How many scalars a container holds. -/
  | containerSize
  /-- Whether the operand is nothing. -/
  | isNull
  /-- The scalar at a position of an ordered container, counted from one. -/
  | index (n : Int64)
  /-- A field of a record. -/
  | fieldValue (field : Identifier)
  /-- A random scalar of a container. -/
  | random
  /-- Whether a scalar is in a container. -/
  | member
  /-- A container without a scalar. -/
  | delete
  /-- Whether a container is part of another. -/
  | contains
  /-- Whether a text is part of another. -/
  | substring (caseSensitive : Bool)
  /-- The negation. -/
  | not
  /-- The conjunction. -/
  | and
  /-- The disjunction. -/
  | or
  /-- Whether the number of true operands is between two bounds. -/
  | anyN (least greatest : Int64)
  /-- Whether two values are equal. -/
  | equalValues
  /-- Whether two texts are equal. -/
  | stringMatch (caseSensitive : Bool)
  /-- Whether a text as a whole matches a pattern. -/
  | patternMatch (pattern : String)
  /-- Whether two numbers are close enough. -/
  | equal (test : EqualityTest)
  /-- Whether two numbers are equal after rounding. -/
  | equalRounded (mode : RoundingMode) (figures : Int64)
  /-- Whether some point is in an area. -/
  | inside (shape : Shape)
  /-- A comparison of two numbers. -/
  | compare (comparison : Comparison)
  /-- Whether a duration is shorter than another. -/
  | durationLt
  /-- Whether a duration is not shorter than another. -/
  | durationGte
  /-- The sum. -/
  | sum
  /-- The product. -/
  | product
  /-- The difference. -/
  | subtract
  /-- The quotient of doubles. -/
  | divide
  /-- The power of doubles. -/
  | power
  /-- The quotient of integers, rounded down. -/
  | integerDivide
  /-- The remainder that belongs to it. -/
  | integerModulus
  /-- The integer part. -/
  | truncate
  /-- The nearest integer. -/
  | round
  /-- A number rounded to so many figures. -/
  | roundTo (mode : RoundingMode) (figures : Int64)
  /-- An integer as a float. -/
  | integerToFloat
  /-- The least number. -/
  | min
  /-- The greatest number. -/
  | max
  /-- The greatest common divisor. -/
  | gcd
  /-- The least common multiple. -/
  | lcm
  /-- An ordered container of the operands, several times over. -/
  | repeat (count : Int64)

namespace Operator

/-- The name of an operator. -/
def name : Operator → String
  | multiple => "multiple"
  | ordered => "ordered"
  | containerSize => "containerSize"
  | isNull => "isNull"
  | index _ => "index"
  | fieldValue _ => "fieldValue"
  | random => "random"
  | member => "member"
  | delete => "delete"
  | contains => "contains"
  | substring _ => "substring"
  | not => "not"
  | and => "and"
  | or => "or"
  | anyN _ _ => "anyN"
  | equalValues => "match"
  | stringMatch _ => "stringMatch"
  | patternMatch _ => "patternMatch"
  | equal _ => "equal"
  | equalRounded _ _ => "equalRounded"
  | inside _ => "inside"
  | compare .lt => "lt"
  | compare .gt => "gt"
  | compare .lte => "lte"
  | compare .gte => "gte"
  | durationLt => "durationLT"
  | durationGte => "durationGTE"
  | sum => "sum"
  | product => "product"
  | subtract => "subtract"
  | divide => "divide"
  | power => "power"
  | integerDivide => "integerDivide"
  | integerModulus => "integerModulus"
  | truncate => "truncate"
  | round => "round"
  | roundTo _ _ => "roundTo"
  | integerToFloat => "integerToFloat"
  | min => "min"
  | max => "max"
  | gcd => "gcd"
  | lcm => "lcm"
  | .repeat _ => "repeat"

/-- How many operands an operator takes. -/
def arity : Operator → Arity
  | multiple | ordered => .atLeast 0
  | and | or | anyN _ _ | sum | product | min | max | gcd | lcm | .repeat _ => .atLeast 1
  | containerSize | isNull | index _ | fieldValue _ | random | not | patternMatch _ | inside _
  | truncate | round | roundTo _ _ | integerToFloat => .exactly 1
  | member | delete | contains | substring _ | equalValues | stringMatch _ | equal _
  | equalRounded _ _ | compare _ | durationLt | durationGte | subtract | divide | power
  | integerDivide | integerModulus => .exactly 2

end Operator

/-! ### As JSON -/

namespace ToleranceMode

/-- The tolerance modes with their names in JSON. -/
def names : List (String × ToleranceMode) :=
  [("exact", .exact), ("absolute", .absolute), ("relative", .relative)]

/-- A tolerance mode as JSON. -/
def toJson : ToleranceMode → Json
  | exact => .str "exact"
  | absolute => .str "absolute"
  | relative => .str "relative"

end ToleranceMode

namespace RoundingMode

/-- The rounding modes with their names in JSON. -/
def names : List (String × RoundingMode) :=
  [("significant_figures", .significantFigures), ("decimal_places", .decimalPlaces)]

/-- A rounding mode as JSON. -/
def toJson : RoundingMode → Json
  | significantFigures => .str "significant_figures"
  | decimalPlaces => .str "decimal_places"

end RoundingMode

namespace Operator

/-- The operators without attributes, with their names in JSON. -/
def plain : List (String × Operator) :=
  [("multiple", multiple), ("ordered", ordered), ("containerSize", containerSize),
    ("isNull", isNull), ("random", random), ("member", member), ("delete", delete),
    ("contains", contains), ("not", not), ("and", and), ("or", or), ("match", equalValues),
    ("lt", compare .lt), ("gt", compare .gt), ("lte", compare .lte), ("gte", compare .gte),
    ("durationLt", durationLt), ("durationGte", durationGte), ("sum", sum), ("product", product),
    ("subtract", subtract), ("divide", divide), ("power", power),
    ("integerDivide", integerDivide), ("integerModulus", integerModulus), ("truncate", truncate),
    ("round", round), ("integerToFloat", integerToFloat), ("min", min), ("max", max),
    ("gcd", gcd), ("lcm", lcm)]

/-- The tag of an operator in JSON. It is the name, but for the two that compare durations. -/
def tag : Operator → String
  | durationLt => "durationLt"
  | durationGte => "durationGte"
  | operator => operator.name

/-- The attributes of an operator as JSON. -/
def attributesJson : Operator → List (String × Json)
  | index n => [("n", .int n.toInt)]
  | fieldValue field => [("field_identifier", field.toJson)]
  | substring caseSensitive => [("case_sensitive", .bool caseSensitive)]
  | anyN least greatest => [("min", .int least.toInt), ("max", .int greatest.toInt)]
  | stringMatch caseSensitive => [("case_sensitive", .bool caseSensitive)]
  | patternMatch pattern => [("pattern", .str pattern)]
  | equal test =>
    [("tolerance_mode", test.mode.toJson), ("tolerance", .ofList Json.ofFloat test.tolerance),
      ("include_lower_bound", .bool test.includeLower),
      ("include_upper_bound", .bool test.includeUpper)]
  | equalRounded mode figures => [("rounding_mode", mode.toJson), ("figures", .int figures.toInt)]
  | inside shape => [("shape", shape.toJson)]
  | roundTo mode figures => [("rounding_mode", mode.toJson), ("figures", .int figures.toInt)]
  | .repeat count => [("number_repeats", .int count.toInt)]
  | _ => []

/-- An operator as JSON. -/
def toJson (operator : Operator) : Json := .tagged "name" operator.tag operator.attributesJson

/-- The tags of operators. -/
def tags : List String :=
  ["multiple", "ordered", "containerSize", "isNull", "index", "fieldValue", "random", "member",
    "delete", "contains", "substring", "not", "and", "or", "anyN", "match", "stringMatch",
    "patternMatch", "equal", "equalRounded", "inside", "lt", "gt", "lte", "gte", "durationLt",
    "durationGte", "sum", "product", "subtract", "divide", "power", "integerDivide",
    "integerModulus", "truncate", "round", "roundTo", "integerToFloat", "min", "max", "gcd",
    "lcm", "repeat"]

/-- The operator with attributes that JSON writes. -/
def ofAttributes? (name : String) (body : Datum) : Option Operator :=
  match name with
  | "index" => do
    let fields ← body.fields? ["n"]
    some (index (← fields.required "n" Datum.word?))
  | "fieldValue" => do
    let fields ← body.fields? ["field_identifier"]
    some (fieldValue (← fields.required "field_identifier" Identifier.ofJson?))
  | "substring" => do
    let fields ← body.fields? ["case_sensitive"]
    some (substring (← fields.defaulted "case_sensitive" Datum.bool? true))
  | "anyN" => do
    let fields ← body.fields? ["min", "max"]
    some (anyN (← fields.required "min" Datum.word?) (← fields.required "max" Datum.word?))
  | "stringMatch" => do
    let fields ← body.fields? ["case_sensitive"]
    some (stringMatch (← fields.defaulted "case_sensitive" Datum.bool? true))
  | "patternMatch" => do
    let fields ← body.fields? ["pattern"]
    some (patternMatch (← fields.required "pattern" Datum.str?))
  | "equal" => do
    let fields ← body.fields?
      ["tolerance_mode", "tolerance", "include_lower_bound", "include_upper_bound"]
    some (equal ⟨← fields.defaulted "tolerance_mode" (Datum.oneOf? ToleranceMode.names) .exact,
      ← fields.defaulted "tolerance" (Datum.list? Datum.float?) [],
      ← fields.defaulted "include_lower_bound" Datum.bool? true,
      ← fields.defaulted "include_upper_bound" Datum.bool? true⟩)
  | "equalRounded" => do
    let fields ← body.fields? ["rounding_mode", "figures"]
    some (equalRounded
      (← fields.defaulted "rounding_mode" (Datum.oneOf? RoundingMode.names) .significantFigures)
      (← fields.required "figures" Datum.word?))
  | "inside" => do
    let fields ← body.fields? ["shape"]
    some (inside (← fields.required "shape" Shape.ofJson?))
  | "roundTo" => do
    let fields ← body.fields? ["rounding_mode", "figures"]
    some (roundTo
      (← fields.defaulted "rounding_mode" (Datum.oneOf? RoundingMode.names) .significantFigures)
      (← fields.required "figures" Datum.word?))
  | "repeat" => do
    let fields ← body.fields? ["number_repeats"]
    some (.repeat (← fields.required "number_repeats" Datum.word?))
  | _ => none

/-- The operator that JSON writes. -/
def ofJson? (datum : Datum) : Option Operator := do
  let (name, body) ← datum.variant? "name" tags
  match plain.find? (·.1 = name) with
  | some (_, operator) => if body.noFields then some operator else none
  | none => ofAttributes? name body

end Operator

end Assessment
