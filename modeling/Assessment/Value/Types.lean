/-!
# Types of values

A variable is declared with a signature: how many scalars it holds and of which base type they are.
Records hold scalars of any type and so have no base type.
-/

namespace Assessment

/-- How many scalars a value holds, and in which arrangement. -/
inductive Cardinality where
  /-- One scalar. -/
  | single
  /-- Several scalars in no order. -/
  | multiple
  /-- Several scalars in order. -/
  | ordered
  /-- Scalars under field names. -/
  | record
  deriving DecidableEq

namespace Cardinality

/-- All cardinalities. -/
def all : List Cardinality := [.single, .multiple, .ordered, .record]

/-- The name of a cardinality. -/
def name : Cardinality → String
  | single => "single"
  | multiple => "multiple"
  | ordered => "ordered"
  | record => "record"

/-- The cardinality of a name. -/
def ofName? (text : String) : Option Cardinality := all.find? (·.name = text)

/-- Whether values are lists of scalars. -/
def isContainer : Cardinality → Bool
  | multiple | ordered => true
  | single | record => false

end Cardinality

/-- The kind of a scalar. -/
inductive BaseType where
  /-- Truth values. -/
  | boolean
  /-- Signed words. -/
  | integer
  /-- Doubles. -/
  | float
  /-- Texts. -/
  | string
  /-- Points of the screen. -/
  | point
  /-- Two identifiers in no order. -/
  | pair
  /-- Two identifiers in order. -/
  | directedPair
  /-- Spans of time in seconds. -/
  | duration
  /-- Uploaded files. -/
  | file
  /-- Resource addresses. -/
  | uri
  /-- Identifiers. -/
  | identifier
  deriving DecidableEq

namespace BaseType

/-- All base types. -/
def all : List BaseType :=
  [.boolean, .integer, .float, .string, .point, .pair, .directedPair, .duration, .file, .uri,
    .identifier]

/-- The name of a base type. -/
def name : BaseType → String
  | boolean => "boolean"
  | integer => "integer"
  | float => "float"
  | string => "string"
  | point => "point"
  | pair => "pair"
  | directedPair => "directedPair"
  | duration => "duration"
  | file => "file"
  | uri => "uri"
  | identifier => "identifier"

/-- The base type of a name. -/
def ofName? (text : String) : Option BaseType := all.find? (·.name = text)

/-- Whether the scalars are numbers. -/
def isNumeric : BaseType → Bool
  | integer | float => true
  | _ => false

end BaseType

/-- The declared type of a variable. -/
structure Signature where
  /-- How many scalars there are. -/
  cardinality : Cardinality
  /-- Of which base type they are. -/
  baseType : Option BaseType
  deriving DecidableEq

namespace Signature

/-- One scalar of a base type. -/
def single (base : BaseType) : Signature := ⟨.single, some base⟩

/-- A signature is valid if records have no base type and all others have one. -/
def isValid (signature : Signature) : Bool :=
  match signature.cardinality with
  | .record => signature.baseType.isNone
  | .single | .multiple | .ordered => signature.baseType.isSome

/-- The text of a signature: the cardinality and the base type, if there is one. -/
def text (signature : Signature) : String :=
  match signature.baseType with
  | some base => signature.cardinality.name ++ " " ++ base.name
  | none => signature.cardinality.name

end Signature

end Assessment
