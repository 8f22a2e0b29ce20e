import Assessment.SortedMap
import Assessment.TriState
import Assessment.Value.Scalar

/-!
# Values

What a variable holds: nothing, one scalar, a container of scalars of one base type, or a record.
A container or record without elements counts as nothing.
-/

namespace Assessment

/-- Scalars of one base type. -/
structure Container where
  /-- The base type of every scalar. -/
  baseType : BaseType
  /-- The scalars in the order they were given. -/
  items : List Scalar
  /-- All scalars are of the base type. -/
  homogeneous : ∀ item ∈ items, item.baseType = baseType
  deriving DecidableEq

namespace Container

/-- A container of scalars that are all of one base type; otherwise the base type of the first
scalar that is of another. -/
def ofItems (baseType : BaseType) (items : List Scalar) : Except BaseType Container :=
  match found : items.find? (·.baseType ≠ baseType) with
  | some odd => .error odd.baseType
  | none => .ok ⟨baseType, items, by simpa using List.find?_eq_none.1 found⟩

/-- Whether there is no scalar. -/
def isEmpty (container : Container) : Bool := container.items.isEmpty

/-- Whether some scalar equals the given one. -/
def has (container : Container) (scalar : Scalar) : Bool :=
  container.items.any (· == scalar)

/-- Equality of containers without order. -/
def sameBag (a b : Container) : Bool :=
  a.baseType = b.baseType && Scalar.sameBag a.items b.items

/-- Equality of containers with order. -/
def sameList (a b : Container) : Bool :=
  a.baseType = b.baseType && Scalar.sameList a.items b.items

end Container

/-- What a variable holds. -/
inductive Value where
  /-- Nothing. -/
  | null
  /-- One scalar. -/
  | single (scalar : Scalar)
  /-- Scalars in no order. -/
  | multiple (container : Container)
  /-- Scalars in order. -/
  | ordered (container : Container)
  /-- Scalars under field names. -/
  | record (fields : SortedMap Identifier Scalar)

namespace Value

instance : Inhabited Value := ⟨null⟩

/-- A truth value. -/
def boolean (b : Bool) : Value := single (.boolean b)

/-- A signed word. -/
def integer (n : Int64) : Value := single (.integer n)

/-- A double. -/
def float (x : Float) : Value := single (.float x)

/-- A span of time in seconds. -/
def duration (seconds : Float) : Value := single (.duration seconds)

/-- An identifier. -/
def identifier (i : Identifier) : Value := single (.identifier i)

/-- Whether the value is nothing. -/
def isNull : Value → Bool
  | null => true
  | single _ => false
  | multiple container => container.isEmpty
  | ordered container => container.isEmpty
  | record fields => fields.isEmpty

/-- The cardinality of a value; nothing has none. -/
def cardinality? (value : Value) : Option Cardinality :=
  if value.isNull then none
  else match value with
    | null | single _ => some .single
    | multiple _ => some .multiple
    | ordered _ => some .ordered
    | record _ => some .record

/-- The base type of a value; nothing and records have none. -/
def baseType? : Value → Option BaseType
  | single scalar => some scalar.baseType
  | multiple container => if container.isEmpty then none else some container.baseType
  | ordered container => if container.isEmpty then none else some container.baseType
  | null | record _ => none

/-- Whether a variable with a signature may hold the value. Nothing fits every valid signature and
no value an invalid one. -/
def conforms (value : Value) (signature : Signature) : Bool :=
  signature.isValid &&
    (value.isNull ||
      (value.cardinality? = some signature.cardinality && value.baseType? = signature.baseType))

/-- The scalar of a single value. -/
def scalar? : Value → Option Scalar
  | single scalar => some scalar
  | _ => none

/-- The truth value of a single boolean. -/
def bool? : Value → Option Bool
  | single (.boolean b) => some b
  | _ => none

/-- The word of a single integer. -/
def word? : Value → Option Int64
  | single (.integer n) => some n
  | _ => none

/-- The number of a single integer or float. -/
def float? : Value → Option Float
  | single scalar => scalar.toFloat?
  | _ => none

/-- The seconds of a single duration. -/
def seconds? : Value → Option Float
  | single (.duration x) => some x
  | _ => none

/-- The identifier of a single identifier. -/
def identifier? : Value → Option Identifier
  | single (.identifier i) => some i
  | _ => none

/-- The text of a single string. -/
def string? : Value → Option String
  | single (.string s) => some s
  | _ => none

/-- The container of a multiple or ordered value. -/
def container? : Value → Option Container
  | multiple container | ordered container => some container
  | _ => none

/-- The fields of a record. -/
def fields? : Value → Option (SortedMap Identifier Scalar)
  | record fields => some fields
  | _ => none

/-- The scalars of a value, in order: one, those of the container, or none. -/
def elements : Value → List Scalar
  | single scalar => [scalar]
  | multiple container | ordered container => container.items
  | null | record _ => []

/-- The truth value that logic sees: unknown for nothing, none for a value that is not boolean. -/
def triState? (value : Value) : Option TriState :=
  if value.isNull then some .unknown else value.bool?.map .ofBool

/-- The equality of scoring. All ways of holding nothing are equal. -/
def same (a b : Value) : Bool :=
  if a.isNull || b.isNull then a.isNull && b.isNull
  else match a, b with
    | single x, single y => x == y
    | multiple x, multiple y => x.sameBag y
    | ordered x, ordered y => x.sameList y
    | record x, record y => x == y
    | _, _ => false

instance : BEq Value := ⟨same⟩

/-- The text of a value. -/
def text (value : Value) : String :=
  if value.isNull then "NULL"
  else match value with
    | null => "NULL"
    | single scalar => scalar.text
    | multiple container | ordered container =>
      "[" ++ ", ".intercalate (container.items.map Scalar.text) ++ "]"
    | record fields =>
      let parts := fields.toList.map fun (name, scalar) => name.text ++ ": " ++ scalar.text
      "\x7b" ++ ", ".intercalate parts ++ "\x7d"

end Value

end Assessment
