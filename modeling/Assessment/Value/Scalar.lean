import Assessment.Identifier
import Assessment.Number.Decimal
import Assessment.Number.Word
import Assessment.Value.Types

/-!
# Scalars

The single pieces of data that values are made of, with the equality that scoring uses: pairs
without direction are equal in either order, and doubles are compared as numbers.
-/

namespace Assessment

/-- An uploaded file. Its bytes are never looked into. -/
structure FileData where
  /-- The media type the uploader reported. -/
  contentType : String
  /-- The name of the file. -/
  fileName : String
  /-- The content. -/
  bytes : List UInt8
  deriving DecidableEq

/-- One piece of data of some base type. -/
inductive Scalar where
  /-- A truth value. -/
  | boolean (value : Bool)
  /-- A signed word. -/
  | integer (value : Int64)
  /-- A double. -/
  | float (value : Float)
  /-- A text. -/
  | string (value : String)
  /-- A point of the screen. -/
  | point (x y : Int64)
  /-- Two identifiers in no order. -/
  | pair (first second : Identifier)
  /-- Two identifiers in order. -/
  | directedPair (source target : Identifier)
  /-- A span of time in seconds. -/
  | duration (seconds : Float)
  /-- An uploaded file. -/
  | file (value : FileData)
  /-- A resource address. -/
  | uri (value : String)
  /-- An identifier. -/
  | identifier (value : Identifier)
  deriving DecidableEq

namespace Scalar

/-- The base type of a scalar. -/
def baseType : Scalar → BaseType
  | boolean _ => .boolean
  | integer _ => .integer
  | float _ => .float
  | string _ => .string
  | point _ _ => .point
  | pair _ _ => .pair
  | directedPair _ _ => .directedPair
  | duration _ => .duration
  | file _ => .file
  | uri _ => .uri
  | identifier _ => .identifier

/-- The number that an integer or a float holds. -/
def toFloat? : Scalar → Option Float
  | integer n => some (Word.toFloat n)
  | float x => some x
  | _ => none

/-- The equality of scoring. -/
def same : Scalar → Scalar → Bool
  | boolean a, boolean b => a == b
  | integer a, integer b => a == b
  | float a, float b => a == b
  | string a, string b => a == b
  | point x y, point u v => x == u && y == v
  | pair a b, pair c d => (a == c && b == d) || (a == d && b == c)
  | directedPair a b, directedPair c d => a == c && b == d
  | duration a, duration b => a == b
  | file a, file b => a == b
  | uri a, uri b => a == b
  | identifier a, identifier b => a == b
  | _, _ => false

instance : BEq Scalar := ⟨same⟩

/-- The text of a scalar. -/
def text : Scalar → String
  | boolean b => if b then "true" else "false"
  | integer n => toString n.toInt
  | float x => floatText x
  | string s => s
  | point x y => toString x.toInt ++ " " ++ toString y.toInt
  | pair a b => a.text ++ " " ++ b.text
  | directedPair a b => a.text ++ " " ++ b.text
  | duration x => floatText x
  | file f => f.fileName
  | uri s => s
  | identifier i => i.text

/-- A list without the first scalar equal to a given one, if there is one. -/
def takeOut (scalar : Scalar) : List Scalar → Option (List Scalar)
  | [] => none
  | candidate :: rest =>
    if candidate == scalar then some rest else (takeOut scalar rest).map (candidate :: ·)

/-- What is left of a bag when the scalars of another are taken out one by one, if all are there. -/
def takeOutAll : List Scalar → List Scalar → Option (List Scalar)
  | [], bag => some bag
  | scalar :: rest, bag => takeOut scalar bag >>= takeOutAll rest

/-- Whether two lists hold the same scalars equally often. -/
def sameBag (a b : List Scalar) : Bool := takeOutAll a b matches some []

/-- Whether two lists hold the same scalars in the same order. -/
def sameList : List Scalar → List Scalar → Bool
  | [], [] => true
  | a :: as, b :: bs => a == b && sameList as bs
  | _, _ => false

end Scalar

end Assessment
