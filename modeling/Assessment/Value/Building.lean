import Assessment.Value.Basic

/-!
# Building values

Values built from scalars, with the reasons why that can fail.
-/

namespace Assessment

/-- What stood where a value of a declared signature was expected. -/
inductive Misfit where
  /-- The signature itself is not valid. -/
  | invalidSignature
  /-- One scalar of a base type. -/
  | single (found : BaseType)
  /-- A list of so many scalars. -/
  | list (count : Nat)
  /-- A record. -/
  | record
  /-- A scalar of another base type than the container. -/
  | mixed (expected found : BaseType)

/-- Why text cannot be bound to a variable of some signature. -/
inductive Refusal where
  /-- Records and variables without a valid signature take no responses. -/
  | untyped
  /-- A file was given for a variable that holds none. -/
  | fileForOther
  /-- Text was given for a variable that holds a file. -/
  | textForFile
  /-- Several entries were given for one scalar. -/
  | severalEntries

/-- Why a value cannot be built. -/
inductive ValueError where
  /-- The text is no legal name. -/
  | illegalIdentifier (text : String)
  /-- The payload does not fit the declared signature. -/
  | typeMismatch (expected : Signature) (found : Misfit)
  /-- A container holds a scalar of another base type. -/
  | heterogeneous (expected found : BaseType)
  /-- The text does not write a scalar of the base type. -/
  | unreadable (baseType : BaseType) (input : String)
  /-- The response data does not suit the variable. -/
  | refused (signature : Signature) (reason : Refusal)

namespace ValueError

/-- The message about a container with a scalar of another base type. -/
def mixedMessage (expected found : BaseType) : String :=
  "container of " ++ expected.name ++ " holds a " ++ found.name ++ " element"

/-- The words for what stood in the place of a value. -/
def misfitText : Misfit → String
  | .invalidSignature => "payload for an invalid signature"
  | .single found => "single " ++ found.name
  | .list count => "list of " ++ toString count
  | .record => "record"
  | .mixed expected found => mixedMessage expected found

/-- The words for a refusal. -/
def refusalText : Refusal → String
  | .untyped => "record and untyped variables cannot take responses"
  | .fileForOther => "file data requires a single file variable"
  | .textForFile => "file variables require file data"
  | .severalEntries => "several entries for a single variable"

/-- The message of an error. -/
def message : ValueError → String
  | illegalIdentifier text => "illegal identifier: `" ++ text ++ "`"
  | typeMismatch expected found =>
    "type mismatch: expected " ++ expected.text ++ ", found " ++ misfitText found
  | heterogeneous expected found => mixedMessage expected found
  | unreadable baseType input => "cannot parse `" ++ input ++ "` as " ++ baseType.name
  | refused signature reason =>
    "unsupported response data for " ++ signature.text ++ ": " ++ refusalText reason

/-- The name by which callers tell errors of a kind from others. -/
def kind : ValueError → String
  | illegalIdentifier _ => "InvalidIdentifier"
  | typeMismatch _ _ => "TypeMismatch"
  | heterogeneous _ _ => "HeterogeneousContainer"
  | unreadable _ _ => "Parse"
  | refused _ _ => "UnsupportedResponse"

end ValueError

namespace Value

/-- A value of a container, nothing if it has no element. -/
def ofContainer (wrap : Container → Value) (container : Container) : Value :=
  if container.isEmpty then null else wrap container

/-- Scalars in no order. -/
def multipleOf (baseType : BaseType) (items : List Scalar) : Except ValueError Value :=
  match Container.ofItems baseType items with
  | .ok container => .ok (ofContainer multiple container)
  | .error found => .error (.heterogeneous baseType found)

/-- Scalars in order. -/
def orderedOf (baseType : BaseType) (items : List Scalar) : Except ValueError Value :=
  match Container.ofItems baseType items with
  | .ok container => .ok (ofContainer ordered container)
  | .error found => .error (.heterogeneous baseType found)

/-- Scalars under field names. -/
def recordOf (fields : SortedMap Identifier Scalar) : Value :=
  if fields.isEmpty then null else record fields

/-- Data that is to become a value of a declared signature. -/
inductive Payload where
  /-- Nothing. -/
  | null
  /-- One scalar. -/
  | single (scalar : Scalar)
  /-- Scalars of a container. -/
  | list (items : List Scalar)
  /-- Scalars of a record. -/
  | record (fields : SortedMap Identifier Scalar)

/-- What a payload is, for the message about one that does not fit. -/
def Payload.misfit : Payload → Misfit
  | .null => .list 0
  | .single scalar => .single scalar.baseType
  | .list items => .list items.length
  | .record _ => .record

/-- The value of a declared signature that a payload gives. -/
def typed (signature : Signature) (payload : Payload) : Except ValueError Value :=
  if !signature.isValid then .error (.typeMismatch signature .invalidSignature)
  else match signature.cardinality, signature.baseType, payload with
    | _, _, .null => .ok null
    | .single, some baseType, .single scalar =>
      if scalar.baseType = baseType then .ok (single scalar)
      else .error (.typeMismatch signature (.single scalar.baseType))
    | .multiple, some baseType, .list items =>
      match Container.ofItems baseType items with
      | .ok container => .ok (ofContainer multiple container)
      | .error found => .error (.typeMismatch signature (.mixed baseType found))
    | .ordered, some baseType, .list items =>
      match Container.ofItems baseType items with
      | .ok container => .ok (ofContainer ordered container)
      | .error found => .error (.typeMismatch signature (.mixed baseType found))
    | .record, none, .record fields => .ok (recordOf fields)
    | _, _, payload => .error (.typeMismatch signature payload.misfit)

end Value

end Assessment
