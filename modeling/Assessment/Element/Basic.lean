import Assessment.Json.Decoding
import Assessment.SortedMap

/-!
# Elements

The written form of rules and expressions: a tree of elements, each with a tag, attributes, inner
elements and sometimes a text.
-/

namespace Assessment

/-- An element. -/
inductive Element where
  /-- An element with a tag, attributes, inner elements and a text. -/
  | mk (tag : String) (attributes : SortedMap String String) (children : List Element)
      (text : Option String)

namespace Element

/-- The tag of an element. -/
def tag : Element → String
  | mk tag _ _ _ => tag

/-- The attributes of an element. -/
def attributes : Element → SortedMap String String
  | mk _ attributes _ _ => attributes

/-- The elements in an element. -/
def children : Element → List Element
  | mk _ _ children _ => children

/-- The text of an element. -/
def text : Element → Option String
  | mk _ _ _ text => text

/-- An attribute of an element. -/
def attribute? (element : Element) (name : String) : Option String := element.attributes.get? name

mutual

/-- All elements of a tree, each before those in it. -/
def walk : Element → List Element
  | mk tag attributes children text => mk tag attributes children text :: walkAll children

/-- All elements of several trees in order. -/
def walkAll : List Element → List Element
  | [] => []
  | first :: rest => walk first ++ walkAll rest

end

/-! ### As JSON -/

mutual

/-- An element as JSON. -/
def toJson : Element → Json
  | mk tag attributes children text =>
    .obj [("tag", .str tag),
      ("attributes", .obj (attributes.toList.map fun entry => (entry.1, .str entry.2))),
      ("children", .arr (toJsonAll children)), ("text", .ofOption Json.str text)]

/-- Several elements as JSON. -/
def toJsonAll : List Element → List Json
  | [] => []
  | first :: rest => toJson first :: toJsonAll rest

end

/-- The attributes that a JSON object writes. -/
def attributesOfJson? (datum : Datum) : Option (SortedMap String String) :=
  (datum.entries? Datum.str?).map .ofList

/-- The element that JSON writes, if its tree is no deeper than a bound. -/
def ofJsonWithin : Nat → Datum → Option Element
  | 0, _ => none
  | depth + 1, datum => do
    let fields ← datum.fields? ["tag", "attributes", "children", "text"]
    some (mk (← fields.required "tag" Datum.str?)
      (← fields.defaulted "attributes" attributesOfJson? .empty)
      (← fields.defaulted "children" (Datum.list? (ofJsonWithin depth)) [])
      (← fields.optional "text" Datum.str?))

/-- The element that JSON writes. -/
def ofJson? (datum : Datum) : Option Element := ofJsonWithin datum.json.depth datum

end Element

end Assessment
