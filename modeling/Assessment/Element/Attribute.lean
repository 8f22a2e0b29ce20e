import Assessment.Element.Basic
import Assessment.Expression.Basic
import Assessment.Number.Reading
import Assessment.Text.Blank
import Assessment.Value.Response

/-!
# Attributes of elements

Reading the attributes of an element as numbers, names, shapes and the like. Numbers and truth
values may have white space around them; everything else is taken as it is written.
-/

namespace Assessment

/-- Why an element builds nothing. -/
inductive BuildError where
  /-- No element of the tag is known. -/
  | unknownElement (tag : String)
  /-- An attribute has to be given. -/
  | missingAttribute (tag name : String)
  /-- An attribute is not written as it has to be. -/
  | invalidAttribute (tag name written : String)
  /-- The element holds too few or too many elements. -/
  | childCount (tag : String) (expected : Arity) (found : Nat)
  /-- The text of a literal writes no value. -/
  | value (error : ValueError)

namespace BuildError

/-- The message of an error. -/
def message : BuildError → String
  | unknownElement tag => "unknown element <" ++ tag ++ ">"
  | missingAttribute tag name => "<" ++ tag ++ "> requires attribute " ++ name
  | invalidAttribute tag name written =>
    "<" ++ tag ++ "> has invalid " ++ name ++ "=\"" ++ written ++ "\""
  | childCount tag expected found =>
    "<" ++ tag ++ "> expects " ++ expected.text ++ " children, found " ++ toString found
  | value error => error.message

/-- The name by which callers tell errors of a kind from others. -/
def kind : BuildError → String
  | unknownElement _ => "UnknownElement"
  | missingAttribute _ _ => "MissingAttribute"
  | invalidAttribute _ _ _ => "InvalidAttribute"
  | childCount _ _ _ => "ChildCount"
  | value error => "Value/" ++ error.kind

end BuildError

namespace Element

variable {α : Type}

/-- The error that an attribute is not written as it has to be. -/
def invalid (element : Element) (name value : String) : BuildError :=
  .invalidAttribute element.tag name value

/-- The text of an attribute that has to be given. -/
def required (element : Element) (name : String) : Except BuildError String :=
  match element.attribute? name with
  | some value => .ok value
  | none => .error (.missingAttribute element.tag name)

/-- The thing that the text of an attribute writes. -/
def interpret (element : Element) (name : String) (read : String → Option α) (value : String) :
    Except BuildError α :=
  match read value with
  | some a => .ok a
  | none => .error (element.invalid name value)

/-- The thing that an attribute writes which has to be given. -/
def requiredAs (element : Element) (name : String) (read : String → Option α) :
    Except BuildError α := do
  element.interpret name read (← element.required name)

/-- The thing that an attribute writes, if it is given. -/
def optionalAs (element : Element) (name : String) (read : String → Option α) :
    Except BuildError (Option α) :=
  match element.attribute? name with
  | none => .ok none
  | some value => (element.interpret name read value).map some

/-- The thing that an attribute writes, or a default. -/
def defaultedAs (element : Element) (name : String) (read : String → Option α) (default : α) :
    Except BuildError α :=
  match element.attribute? name with
  | none => .ok default
  | some value => element.interpret name read value

/-! ### What attributes write -/

/-- A word. -/
def wordOf? (value : String) : Option Int64 := readWord (Text.trim value)

/-- A double. -/
def floatOf? (value : String) : Option Float := readFloat (Text.trim value)

/-- A truth value. -/
def flagOf? (value : String) : Option Bool := readFlag (Text.trim value)

/-- Several names, with white space between them. -/
def namesOf? (value : String) : Option (List Identifier) :=
  (Text.words value).mapM Identifier.ofText?

/-- Several doubles, with white space between them. -/
def floatsOf? (value : String) : Option (List Float) := (Text.words value).mapM readFloat

/-- Several words, with commas between them. -/
def coordinatesOf? (value : String) : Option (List Int64) :=
  if Text.isBlankText value then some [] else (value.splitOn ",").mapM wordOf?

/-- What rounding keeps. -/
def roundingOf? (value : String) : Option RoundingMode :=
  if value = "significantFigures" then some .significantFigures
  else if value = "decimalPlaces" then some .decimalPlaces
  else none

/-- What a tolerance means. -/
def toleranceOf? (value : String) : Option ToleranceMode :=
  (ToleranceMode.names.find? (·.1 = value)).map (·.2)

/-- A constant of mathematics. -/
def constantOf? (value : String) : Option MathConstant :=
  if value = "pi" then some .pi else if value = "e" then some .e else none

/-- Points from their coordinates in turn. -/
def pointsOf : List Int64 → List (Int64 × Int64)
  | x :: y :: rest => (x, y) :: pointsOf rest
  | _ => []

/-- The shape of a kind with coordinates, if there is such a kind and the number of coordinates is
right. The inner option tells a wrong number. -/
def shapeOf? (kind : String) (coordinates : List Int64) : Option (Option Shape) :=
  match kind, coordinates with
  | "default", _ => some (some .default)
  | "rect", [left, top, right, bottom] => some (some (.rect left top right bottom))
  | "rect", _ => some none
  | "circle", [centerX, centerY, radius] => some (some (.circle centerX centerY radius))
  | "circle", _ => some none
  | "ellipse", [centerX, centerY, hRadius, vRadius] =>
    some (some (.ellipse centerX centerY hRadius vRadius))
  | "ellipse", _ => some none
  | "poly", coordinates =>
    if 6 ≤ coordinates.length ∧ coordinates.length % 2 = 0 then
      some (some (.poly (pointsOf coordinates)))
    else some none
  | _, _ => none

/-- The shape that the attributes of an element write. -/
def shape (element : Element) : Except BuildError Shape := do
  let kind ← element.required "shape"
  let value := (element.attribute? "coords").getD ""
  -- coordinates are read even where the shape needs none
  let coordinates ← element.interpret "coords" coordinatesOf? value
  match shapeOf? kind coordinates with
  | some (some shape) => return shape
  | some none => throw (element.invalid "coords" value)
  | none => throw (element.invalid "shape" kind)

/-- The restriction to some items that the attributes of an element write. -/
def subset (element : Element) : Except BuildError ItemSubset := do
  let within ← element.optionalAs "sectionIdentifier" Identifier.ofText?
  let including ← element.defaultedAs "includeCategory" namesOf? []
  let excluding ← element.defaultedAs "excludeCategory" namesOf? []
  return ⟨within, including, excluding⟩

/-- The test for equality that the attributes of an element write. -/
def equality (element : Element) : Except BuildError EqualityTest := do
  let mode ← element.defaultedAs "toleranceMode" toleranceOf? .exact
  let tolerance ← element.defaultedAs "tolerance" floatsOf? []
  let includeLower ← element.defaultedAs "includeLowerBound" flagOf? true
  let includeUpper ← element.defaultedAs "includeUpperBound" flagOf? true
  return ⟨mode, tolerance, includeLower, includeUpper⟩

end Element

end Assessment
