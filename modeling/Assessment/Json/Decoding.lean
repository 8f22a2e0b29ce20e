import Assessment.Json.Basic
import Assessment.Number.Word

/-!
# Decoding values

Readers from JSON values to the types of the library. Each gives `none` for a value that is not of
the expected form.

A record may be written as an object, whose unknown fields are ignored, or as the list of its
fields in order. A variant is told by a tag, which stands as a field among the fields of the
variant, or as a field beside one that holds the variant's content. How freely tags and constants
may be written depends on where a value stands, so that a place goes with each value.
-/

namespace Assessment

/-- Where a value stands. -/
inductive Place where
  /-- In JSON, within no variant whose tag is one of its fields. -/
  | free
  /-- Within a variant whose tag is one of its fields. All its fields are taken in before the tag
  is known, and read again afterwards; tags may then also be counted. -/
  | tagged
  /-- In a document of tables. -/
  | document
  deriving DecidableEq

/-- A value to be decoded. -/
structure Datum where
  /-- The value. -/
  json : Json
  /-- Where it stands. -/
  place : Place

namespace Datum

/-- A JSON value by itself stands within no variant. -/
instance : Coe Json Datum := ⟨fun json => ⟨json, .free⟩⟩

/-- A truth value. -/
def bool? : Datum → Option Bool
  | ⟨.bool b, _⟩ => some b
  | _ => none

/-- A text. -/
def str? : Datum → Option String
  | ⟨.str s, _⟩ => some s
  | _ => none

/-- A signed word. -/
def word? : Datum → Option Int64
  | ⟨.int n, _⟩ => Word.narrow? n
  | _ => none

/-- A whole number below a bound. -/
def natBelow? (bound : Nat) : Datum → Option Nat
  | ⟨.int n, _⟩ => if 0 ≤ n && n.toNat < bound then some n.toNat else none
  | _ => none

/-- A number of 64 bits without sign. -/
def nat? : Datum → Option Nat := natBelow? Word.count

/-- An unsigned word. -/
def uint64? (datum : Datum) : Option UInt64 := (nat? datum).map UInt64.ofNat

/-- An unsigned half word. -/
def uint32? (datum : Datum) : Option UInt32 := (natBelow? 0x100000000 datum).map UInt32.ofNat

/-- A byte. -/
def byte? (datum : Datum) : Option UInt8 := (natBelow? 256 datum).map UInt8.ofNat

/-- A double; a whole number is taken as the nearest one. -/
def float? : Datum → Option Float
  | ⟨.float x, _⟩ => some x
  | ⟨.int n, _⟩ =>
    -- rounded once, from the word that holds it
    if 0 ≤ n then some (UInt64.ofNat n.toNat).toFloat else some (Word.toFloat (Int64.ofInt n))
  | _ => none

/-- A list of things of one kind. -/
def list? {α : Type} (decode : Datum → Option α) : Datum → Option (List α)
  | ⟨.arr items, place⟩ => items.mapM fun item => decode ⟨item, place⟩
  | _ => none

/-- Two things in a list. -/
def pair? {α : Type} (decode : Datum → Option α) : Datum → Option (α × α)
  | ⟨.arr [a, b], place⟩ => do some (← decode ⟨a, place⟩, ← decode ⟨b, place⟩)
  | _ => none

/-- Things with names, in an object. -/
def entries? {α : Type} (decode : Datum → Option α) : Datum → Option (List (String × α))
  | ⟨.obj fields, place⟩ => fields.mapM fun field => do
    some (field.1, ← decode ⟨field.2, place⟩)
  | _ => none

/-- Null or a thing. -/
def option? {α : Type} (decode : Datum → Option α) (datum : Datum) : Option (Option α) :=
  match datum.json with
  | .null => some none
  | _ => (decode datum).map some

/-- Whether a value may stand beside the name of a constant, as the nothing that it holds. -/
def isNothing : Datum → Bool
  | ⟨.null, .free⟩ | ⟨.null, .tagged⟩ => true
  | ⟨.obj [], .tagged⟩ | ⟨.obj [], .document⟩ => true
  | ⟨.arr [], .document⟩ => true
  | _ => false

/-- The name of a constant: a text, or an object that gives nothing to the name. -/
def constant? : Datum → Option String
  | ⟨.str s, _⟩ => some s
  | ⟨.obj [(name, inner)], place⟩ => if isNothing ⟨inner, place⟩ then some name else none
  | _ => none

/-- One of a list of named constants. -/
def oneOf? {α : Type} (names : List (String × α)) (datum : Datum) : Option α := do
  let name ← constant? datum
  (names.find? (·.1 = name)).map (·.2)

/-! ### Records -/

/-- The fields of a record. -/
structure Fields where
  /-- The fields that are present. -/
  entries : List (String × Json)
  /-- Whether they were written in order and not by name. -/
  positional : Bool
  /-- Where the record stands. -/
  place : Place

/-- The fields of a record with the given field names. A list of a document may go on behind the
last field. -/
def fields? (names : List String) : Datum → Option Fields
  | ⟨.obj entries, place⟩ => some ⟨entries, false, place⟩
  | ⟨.arr items, place⟩ =>
    if place = .document || items.length ≤ names.length then some ⟨names.zip items, true, place⟩
    else none
  | _ => none

namespace Fields

variable {α : Type}

/-- The value of a field. -/
def get? (fields : Fields) (name : String) : Option Datum :=
  (Json.getField? name fields.entries).map fun json => ⟨json, fields.place⟩

/-- A field that has to be there. -/
def required (fields : Fields) (name : String) (decode : Datum → Option α) : Option α :=
  fields.get? name >>= decode

/-- A field that may be null, or missing where fields have names. -/
def nullable (fields : Fields) (name : String) (decode : Datum → Option α) : Option (Option α) :=
  match fields.get? name with
  | some datum => option? decode datum
  -- a list cannot leave out a field in its middle
  | none => if fields.positional then none else some none

/-- A field that may be null or missing. -/
def optional (fields : Fields) (name : String) (decode : Datum → Option α) : Option (Option α) :=
  match fields.get? name with
  | some datum => option? decode datum
  | none => some none

/-- A field that may be missing; it then has a default. -/
def defaulted (fields : Fields) (name : String) (decode : Datum → Option α) (default : α) :
    Option α :=
  match fields.get? name with
  | some datum => decode datum
  | none => some default

/-- Whether all fields have known names. -/
def onlyKnown (fields : Fields) (names : List String) : Bool :=
  fields.entries.all fun field => names.contains field.1

end Fields

/-! ### Variants -/

/-- The name that a tag gives: a text, or within a variant also the number of a name. -/
def tagName? (names : List String) : Datum → Option String
  | ⟨.str name, _⟩ => some name
  | ⟨.int n, .tagged⟩ => if 0 ≤ n then names[n.toNat]? else none
  | _ => none

/-- The tag of a variant, and the value that holds its fields. The names of the variants are given
in the order in which they are counted. -/
def variant? (tag : String) (names : List String) : Datum → Option (String × Datum)
  | ⟨.obj entries, place⟩ => do
    let name ← Json.getField? tag entries >>= fun json => tagName? names ⟨json, place⟩
    some (name, ⟨.obj (Json.removeField tag entries), .tagged⟩)
  | ⟨.arr (first :: rest), place⟩ => do
    let name ← tagName? names ⟨first, place⟩
    some (name, ⟨.arr rest, .tagged⟩)
  | _ => none

/-- The tag of a variant, and its content if there is any. -/
def content? (tag content : String) : Datum → Option (String × Option Datum)
  | ⟨.obj entries, place⟩ => do
    let name ← Json.getField? tag entries >>= fun json => constant? ⟨json, place⟩
    some (name, (Json.getField? content entries).map fun json => ⟨json, place⟩)
  | ⟨.arr [name, inner], place⟩ => do some (← constant? ⟨name, place⟩, some ⟨inner, place⟩)
  | _ => none

/-- Whether the value that holds the fields of a variant without fields is well formed. -/
def noFields (body : Datum) : Bool :=
  match body.json with
  | .arr items => items.isEmpty
  | _ => true

end Datum

end Assessment
