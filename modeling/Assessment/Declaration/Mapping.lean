import Assessment.Shape
import Assessment.Text.Lowercase
import Assessment.Value.Encoding

/-!
# Mappings and lookup tables

A mapping scores a response: each entry counts once, however often it is hit, and the sum is held
between two bounds. An area mapping does the same for points and areas. A lookup table turns a
number into a scalar.
-/

namespace Assessment

/-- The greater of two doubles, and the second of two zeros; of a number and no number, the
number. -/
def greater (x y : Float) : Float :=
  if x.isNaN then y else if y.isNaN then x else if y < x then x else y

/-- The lesser of two doubles, and the second of two zeros; of a number and no number, the
number. -/
def lesser (x y : Float) : Float :=
  if x.isNaN then y else if y.isNaN then x else if x < y then x else y

/-- A sum held between bounds, the upper one last. -/
def clampTo (lower upper : Option Float) (total : Float) : Float :=
  let raised := match lower with
    | some bound => greater total bound
    | none => total
  match upper with
  | some bound => lesser raised bound
  | none => raised

/-- One entry of a mapping. -/
structure MapEntry where
  /-- The scalar that the entry is for. -/
  key : Scalar
  /-- What the entry adds. -/
  mapped : Float
  /-- Whether strings must agree in case. -/
  caseSensitive : Bool

/-- Whether an entry is for a scalar. -/
def MapEntry.accepts (entry : MapEntry) (scalar : Scalar) : Bool :=
  match entry.key, scalar with
  -- letter case matters to texts only
  | .string key, .string text =>
    if entry.caseSensitive then key = text else Text.lowercase key = Text.lowercase text
  | key, scalar => key == scalar

/-- A score for each scalar of a response. -/
structure Mapping where
  /-- The entries; of several for one scalar the first counts. -/
  entries : List MapEntry
  /-- What each distinct scalar without an entry adds. -/
  defaultValue : Float
  /-- The least score. -/
  lowerBound : Option Float
  /-- The greatest score. -/
  upperBound : Option Float

namespace Mapping

/-- The sum over scalars, after those that hit the entries `used` and those in `unmatched`. -/
def sum (mapping : Mapping) (used : List Nat) (unmatched : List Scalar) (total : Float) :
    List Scalar → Float
  | [] => total
  | scalar :: rest =>
    match mapping.entries.findIdx? (·.accepts scalar), unmatched.any (· == scalar) with
    | some position, _ =>
      if used.contains position then sum mapping used unmatched total rest
      else
        let mapped := (mapping.entries[position]?.map (·.mapped)).getD 0.0
        sum mapping (position :: used) unmatched (total + mapped) rest
    -- the default counts once for each distinct scalar
    | none, true => sum mapping used unmatched total rest
    | none, false => sum mapping used (unmatched ++ [scalar]) (total + mapping.defaultValue) rest

/-- The score of a value. -/
def score (mapping : Mapping) (value : Value) : Float :=
  clampTo mapping.lowerBound mapping.upperBound (mapping.sum [] [] 0.0 value.elements)

end Mapping

/-- One entry of an area mapping. -/
structure AreaEntry where
  /-- The area. -/
  shape : Shape
  /-- What the entry adds. -/
  mapped : Float

/-- A score for each point of a response. -/
structure AreaMapping where
  /-- The entries; of several areas with one point the first counts. -/
  entries : List AreaEntry
  /-- What each point outside all areas adds. -/
  defaultValue : Float
  /-- The least score. -/
  lowerBound : Option Float
  /-- The greatest score. -/
  upperBound : Option Float

namespace AreaMapping

/-- The sum over scalars, after those that hit the entries `used`. Only points count. -/
def sum (mapping : AreaMapping) (used : List Nat) (total : Float) : List Scalar → Float
  | [] => total
  | .point x y :: rest =>
    match mapping.entries.findIdx? (·.shape.contains x y) with
    | some position =>
      if used.contains position then sum mapping used total rest
      else
        let mapped := (mapping.entries[position]?.map (·.mapped)).getD 0.0
        sum mapping (position :: used) (total + mapped) rest
    | none => sum mapping used (total + mapping.defaultValue) rest
  | _ :: rest => sum mapping used total rest

/-- The score of a value. -/
def score (mapping : AreaMapping) (value : Value) : Float :=
  clampTo mapping.lowerBound mapping.upperBound (mapping.sum [] 0.0 value.elements)

end AreaMapping

/-- One line of a table that is searched for an integer. -/
structure MatchLine where
  /-- The integer. -/
  source : Int64
  /-- The scalar for it. -/
  target : Scalar

/-- One line of a table that is searched for a lower bound. -/
structure BoundLine where
  /-- The bound. -/
  source : Float
  /-- Whether the bound itself is in. -/
  inclusive : Bool
  /-- The scalar for numbers from the bound on. -/
  target : Scalar

/-- A table from numbers to scalars; the first line that fits counts. -/
inductive LookupTable where
  /-- Lines for single integers. -/
  | exact (lines : List MatchLine) (default : Option Scalar)
  /-- Lines for all numbers from a bound on. -/
  | interpolation (lines : List BoundLine) (default : Option Scalar)

namespace LookupTable

/-- Whether a number is not below the bound of a line. -/
def BoundLine.admits (line : BoundLine) (key : Float) : Bool :=
  if line.inclusive then line.source ≤ key else line.source < key

/-- The scalar that a table has for a value. -/
def find? (table : LookupTable) (source : Value) : Option Scalar :=
  match table with
  | exact lines default =>
    match source.word? >>= fun key => lines.find? (·.source = key) with
    | some line => some line.target
    | none => default
  | interpolation lines default =>
    match source.float? >>= fun key => lines.find? (BoundLine.admits · key) with
    | some line => some line.target
    | none => default

end LookupTable

/-! ### As JSON -/

namespace MapEntry

/-- An entry as JSON. -/
def toJson (entry : MapEntry) : Json :=
  .obj [("map_key", entry.key.toJson), ("mapped_value", .ofFloat entry.mapped),
    ("case_sensitive", .bool entry.caseSensitive)]

/-- The entry that JSON writes. -/
def ofJson? (datum : Datum) : Option MapEntry := do
  let fields ← datum.fields? ["map_key", "mapped_value", "case_sensitive"]
  some ⟨← fields.required "map_key" Scalar.ofJson?, ← fields.required "mapped_value" Datum.float?,
    ← fields.defaulted "case_sensitive" Datum.bool? true⟩

end MapEntry

namespace Mapping

/-- A mapping as JSON. -/
def toJson (mapping : Mapping) : Json :=
  .obj [("entries", .ofList MapEntry.toJson mapping.entries),
    ("default_value", .ofFloat mapping.defaultValue),
    ("lower_bound", .ofOption Json.ofFloat mapping.lowerBound),
    ("upper_bound", .ofOption Json.ofFloat mapping.upperBound)]

/-- The mapping that JSON writes. -/
def ofJson? (datum : Datum) : Option Mapping := do
  let fields ← datum.fields? ["entries", "default_value", "lower_bound", "upper_bound"]
  some ⟨← fields.required "entries" (Datum.list? MapEntry.ofJson?),
    ← fields.defaulted "default_value" Datum.float? 0.0,
    ← fields.optional "lower_bound" Datum.float?, ← fields.optional "upper_bound" Datum.float?⟩

end Mapping

namespace AreaEntry

/-- An entry as JSON. -/
def toJson (entry : AreaEntry) : Json :=
  .obj [("shape", entry.shape.toJson), ("mapped_value", .ofFloat entry.mapped)]

/-- The entry that JSON writes. -/
def ofJson? (datum : Datum) : Option AreaEntry := do
  let fields ← datum.fields? ["shape", "mapped_value"]
  some ⟨← fields.required "shape" Shape.ofJson?, ← fields.required "mapped_value" Datum.float?⟩

end AreaEntry

namespace AreaMapping

/-- An area mapping as JSON. -/
def toJson (mapping : AreaMapping) : Json :=
  .obj [("entries", .ofList AreaEntry.toJson mapping.entries),
    ("default_value", .ofFloat mapping.defaultValue),
    ("lower_bound", .ofOption Json.ofFloat mapping.lowerBound),
    ("upper_bound", .ofOption Json.ofFloat mapping.upperBound)]

/-- The area mapping that JSON writes. -/
def ofJson? (datum : Datum) : Option AreaMapping := do
  let fields ← datum.fields? ["entries", "default_value", "lower_bound", "upper_bound"]
  some ⟨← fields.required "entries" (Datum.list? AreaEntry.ofJson?),
    ← fields.defaulted "default_value" Datum.float? 0.0,
    ← fields.optional "lower_bound" Datum.float?, ← fields.optional "upper_bound" Datum.float?⟩

end AreaMapping

namespace LookupTable

/-- A line for an integer as JSON. -/
def matchJson (line : MatchLine) : Json :=
  .obj [("source_value", .int line.source.toInt), ("target_value", line.target.toJson)]

/-- The line for an integer that JSON writes. -/
def matchOfJson? (datum : Datum) : Option MatchLine := do
  let fields ← datum.fields? ["source_value", "target_value"]
  some ⟨← fields.required "source_value" Datum.word?,
    ← fields.required "target_value" Scalar.ofJson?⟩

/-- A line for a bound as JSON. -/
def boundJson (line : BoundLine) : Json :=
  .obj [("source_value", .ofFloat line.source), ("include_boundary", .bool line.inclusive),
    ("target_value", line.target.toJson)]

/-- The line for a bound that JSON writes. -/
def boundOfJson? (datum : Datum) : Option BoundLine := do
  let fields ← datum.fields? ["source_value", "include_boundary", "target_value"]
  some ⟨← fields.required "source_value" Datum.float?,
    ← fields.defaulted "include_boundary" Datum.bool? true,
    ← fields.required "target_value" Scalar.ofJson?⟩

/-- A table as JSON. -/
def toJson : LookupTable → Json
  | exact lines default =>
    .tagged "kind" "match" [("entries", .ofList matchJson lines),
      ("default_value", .ofOption Scalar.toJson default)]
  | interpolation lines default =>
    .tagged "kind" "interpolation" [("entries", .ofList boundJson lines),
      ("default_value", .ofOption Scalar.toJson default)]

/-- The table that JSON writes. -/
def ofJson? (datum : Datum) : Option LookupTable := do
  let (name, body) ← datum.variant? "kind" ["match", "interpolation"]
  let fields ← body.fields? ["entries", "default_value"]
  match name with
  | "match" =>
    some (exact (← fields.required "entries" (Datum.list? matchOfJson?))
      (← fields.optional "default_value" Scalar.ofJson?))
  | "interpolation" =>
    some (interpolation (← fields.required "entries" (Datum.list? boundOfJson?))
      (← fields.optional "default_value" Scalar.ofJson?))
  | _ => none

end LookupTable

end Assessment
