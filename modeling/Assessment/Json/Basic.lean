/-!
# JSON values

A JSON value as it is read: whole numbers are kept apart from numbers written with a point or an
exponent, because the fields of a definition accept only one of the two kinds.
-/

namespace Assessment

/-- A JSON value. -/
inductive Json where
  /-- The null value. -/
  | null
  /-- A truth value. -/
  | bool (value : Bool)
  /-- A number that was written, and is to be written, as a whole number. -/
  | int (value : Int)
  /-- Any other number. -/
  | float (value : Float)
  /-- A text. -/
  | str (value : String)
  /-- A list of values. -/
  | arr (items : List Json)
  /-- Named values, with distinct names. -/
  | obj (fields : List (String × Json))
  deriving Inhabited

namespace Json

/-- Name a value among others, in the place of an earlier value of that name. -/
def setField (name : String) (value : Json) : List (String × Json) → List (String × Json)
  | [] => [(name, value)]
  | (n, v) :: rest =>
    if n = name then (name, value) :: rest else (n, v) :: setField name value rest

/-- The value of a name. -/
def getField? (name : String) : List (String × Json) → Option Json
  | [] => none
  | (n, v) :: rest => if n = name then some v else getField? name rest

/-- The named values without one name. -/
def removeField (name : String) (fields : List (String × Json)) : List (String × Json) :=
  fields.filter fun field => field.1 != name

/-- The value of a name in an object; `none` for other values too. -/
def field? (name : String) : Json → Option Json
  | .obj fields => getField? name fields
  | _ => none

/-- The value of an optional thing, null when it is absent. -/
def ofOption {α : Type} (encode : α → Json) : Option α → Json
  | some a => encode a
  | none => .null

/-- A list of values. -/
def ofList {α : Type} (encode : α → Json) (items : List α) : Json := .arr (items.map encode)

/-- A number, in whose place null stands where JSON cannot write it: infinities and what is no
number. -/
def ofFloat (x : Float) : Json := if x.isFinite then .float x else .null

/-- A whole number. -/
def ofNat (n : Nat) : Json := .int n

/-- A name in front of the fields of an object: the tag that tells variants apart. -/
def tagged (name value : String) (fields : List (String × Json)) : Json :=
  .obj ((name, .str value) :: fields)

/-- The position that a text gives: digits, with or without a plus sign in front. -/
def position? (text : String) : Option Nat :=
  let digits := match text.toList with
    | '+' :: rest => rest
    | characters => characters
  if digits.all Char.isDigit then (String.ofList digits).toNat? else none

/-- Replace the value that a path leads to. Each step is a name in an object or a position in a
list; the last step must be a name, and a missing value takes the name away. -/
def replaceAt (value : Option Json) : List String → Json → Option Json
  | [], _ => none
  | [last], .obj fields =>
    some (.obj (match value with
      | some v => setField last v fields
      | none => removeField last fields))
  | step :: next :: rest, .obj fields => do
    let inner ← getField? step fields
    let changed ← replaceAt value (next :: rest) inner
    some (.obj (setField step changed fields))
  | step :: next :: rest, .arr items => do
    let position ← position? step
    let inner ← items[position]?
    let changed ← replaceAt value (next :: rest) inner
    some (.arr (items.set position changed))
  | _, _ => none

mutual

/-- How deep lists and objects are nested. -/
def depth : Json → Nat
  | .arr items => depthItems items + 1
  | .obj fields => depthFields fields + 1
  | _ => 0

/-- The greatest depth among the items of a list. -/
def depthItems : List Json → Nat
  | [] => 0
  | item :: rest => max (depth item) (depthItems rest)

/-- The greatest depth among the values of an object. -/
def depthFields : List (String × Json) → Nat
  | [] => 0
  | (_, value) :: rest => max (depth value) (depthFields rest)

end

end Json

end Assessment
