import Assessment.Json.Decoding
import Assessment.Value.Response

/-!
# Values as JSON

A scalar names its base type beside its content, a value its cardinality, and response data its
kind.
-/

namespace Assessment

namespace Identifier

/-- An identifier as JSON. -/
def toJson (identifier : Identifier) : Json := .str identifier.text

/-- The identifier that a JSON text names. -/
def ofJson? (datum : Datum) : Option Identifier := datum.str? >>= ofText?

end Identifier

namespace SortedMap

/-- A map with identifiers as keys, as a JSON object. -/
def toJson {α : Type} (encode : α → Json) (map : SortedMap Identifier α) : Json :=
  .obj (map.toList.map fun entry => (entry.1.text, encode entry.2))

/-- The map with identifiers as keys that a JSON object writes. -/
def ofJson? {α : Type} (decode : Datum → Option α) (datum : Datum) :
    Option (SortedMap Identifier α) := do
  let entries ← datum.entries? decode
  some (ofList (← entries.mapM fun entry => do some (← Identifier.ofText? entry.1, entry.2)))

end SortedMap

namespace Cardinality

/-- A cardinality as JSON. -/
def toJson (cardinality : Cardinality) : Json := .str cardinality.name

/-- The cardinality that JSON names. -/
def ofJson? (datum : Datum) : Option Cardinality := datum.constant? >>= ofName?

end Cardinality

namespace BaseType

/-- A base type as JSON. -/
def toJson (baseType : BaseType) : Json := .str baseType.name

/-- The base type that JSON names. -/
def ofJson? (datum : Datum) : Option BaseType := datum.constant? >>= ofName?

end BaseType

namespace Signature

/-- A signature as JSON. -/
def toJson (signature : Signature) : Json :=
  .obj [("cardinality", signature.cardinality.toJson),
    ("base_type", .ofOption BaseType.toJson signature.baseType)]

/-- The signature that JSON writes. -/
def ofJson? (datum : Datum) : Option Signature := do
  let fields ← datum.fields? ["cardinality", "base_type"]
  some ⟨← fields.required "cardinality" Cardinality.ofJson?,
    ← fields.nullable "base_type" BaseType.ofJson?⟩

end Signature

namespace FileData

/-- A file as JSON. -/
def toJson (file : FileData) : Json :=
  .obj [("content_type", .str file.contentType), ("file_name", .str file.fileName),
    ("data", .ofList (fun byte => .ofNat byte.toNat) file.bytes)]

/-- The file that JSON writes. -/
def ofJson? (datum : Datum) : Option FileData := do
  let fields ← datum.fields? ["content_type", "file_name", "data"]
  some ⟨← fields.required "content_type" Datum.str?, ← fields.required "file_name" Datum.str?,
    ← fields.required "data" (Datum.list? Datum.byte?)⟩

end FileData

namespace Scalar

/-- The content of a scalar as JSON, without its base type. -/
def contentJson : Scalar → Json
  | boolean b => .bool b
  | integer n => .int n.toInt
  | float x => .ofFloat x
  | string s => .str s
  | point x y => .obj [("x", .int x.toInt), ("y", .int y.toInt)]
  | pair a b => .arr [a.toJson, b.toJson]
  | directedPair a b => .arr [a.toJson, b.toJson]
  | duration x => .ofFloat x
  | file f => f.toJson
  | uri s => .str s
  | identifier i => i.toJson

/-- A scalar as JSON. -/
def toJson (scalar : Scalar) : Json :=
  .obj [("base_type", scalar.baseType.toJson), ("value", scalar.contentJson)]

/-- The scalar of a base type whose content JSON writes. -/
def ofContent? (datum : Datum) : BaseType → Option Scalar
  | .boolean => datum.bool?.map boolean
  | .integer => datum.word?.map integer
  | .float => datum.float?.map float
  | .string => datum.str?.map string
  | .point => do
    let fields ← datum.fields? ["x", "y"]
    some (point (← fields.required "x" Datum.word?) (← fields.required "y" Datum.word?))
  | .pair => (datum.pair? Identifier.ofJson?).map fun (a, b) => pair a b
  | .directedPair => (datum.pair? Identifier.ofJson?).map fun (a, b) => directedPair a b
  | .duration => datum.float?.map duration
  | .file => (FileData.ofJson? datum).map file
  | .uri => datum.str?.map uri
  | .identifier => (Identifier.ofJson? datum).map identifier

/-- The scalar that JSON writes. -/
def ofJson? (datum : Datum) : Option Scalar := do
  let (name, content) ← datum.content? "base_type" "value"
  ofContent? (← content) (← BaseType.ofName? name)

end Scalar

namespace Container

/-- A container as JSON. -/
def toJson (container : Container) : Json :=
  .obj [("base_type", container.baseType.toJson), ("values", .ofList Scalar.toJson container.items)]

/-- The container that JSON writes; scalars of another base type are refused. -/
def ofJson? (datum : Datum) : Option Container := do
  let fields ← datum.fields? ["base_type", "values"]
  let baseType ← fields.required "base_type" BaseType.ofJson?
  let items ← fields.required "values" (Datum.list? Scalar.ofJson?)
  (ofItems baseType items).toOption

end Container

namespace Value

/-- A value as JSON. -/
def toJson : Value → Json
  | null => .obj [("cardinality", .str "null")]
  | single scalar => .obj [("cardinality", .str "single"), ("value", scalar.toJson)]
  | multiple container => .obj [("cardinality", .str "multiple"), ("value", container.toJson)]
  | ordered container => .obj [("cardinality", .str "ordered"), ("value", container.toJson)]
  | record fields => .obj [("cardinality", .str "record"), ("value", fields.toJson Scalar.toJson)]

/-- The value that JSON writes. Containers and records without elements keep their form. -/
def ofJson? (datum : Datum) : Option Value := do
  let (name, content) ← datum.content? "cardinality" "value"
  match name, content with
  | "null", none | "null", some ⟨.null, _⟩ => some null
  | "single", some content => (Scalar.ofJson? content).map single
  | "multiple", some content => (Container.ofJson? content).map multiple
  | "ordered", some content => (Container.ofJson? content).map ordered
  | "record", some content => (SortedMap.ofJson? Scalar.ofJson? content).map record
  | _, _ => none

end Value

namespace ResponseData

/-- Response data as JSON. -/
def toJson : ResponseData → Json
  | strings entries => .obj [("kind", .str "strings"), ("data", .ofList Json.str entries)]
  | file data => .obj [("kind", .str "file"), ("data", data.toJson)]

/-- The response data that JSON writes. -/
def ofJson? (datum : Datum) : Option ResponseData := do
  let (name, content) ← datum.content? "kind" "data"
  match name, content with
  | "strings", some content => (Datum.list? Datum.str? content).map strings
  | "file", some content => (FileData.ofJson? content).map file
  | _, _ => none

end ResponseData

end Assessment
