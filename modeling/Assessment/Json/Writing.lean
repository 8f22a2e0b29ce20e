import Assessment.Json.Basic
import Assessment.Number.Decimal

/-!
# Writing JSON text

Two writers without white space. `render` keeps the order of names and marks numbers that are not
whole with a point, so that reading gives the value back. `canonical` is the form that digests are
taken of: names in the order of their written forms and the number layout of canonical JSON.
-/

namespace Assessment.Json

/-- A lower-case hexadecimal digit. -/
def hexDigit (n : Nat) : Char := if n < 10 then Char.ofNat (48 + n) else Char.ofNat (87 + n)

/-- A character inside a string; only the characters that have to be are escaped. -/
def escapeChar (c : Char) : List Char :=
  if c = '"' then ['\\', '"']
  else if c = '\\' then ['\\', '\\']
  else if c = '\n' then ['\\', 'n']
  else if c = '\r' then ['\\', 'r']
  else if c = '\t' then ['\\', 't']
  else if c.toNat = 8 then ['\\', 'b']
  else if c.toNat = 12 then ['\\', 'f']
  else if c.toNat < 0x20 then
    ['\\', 'u', '0', '0', hexDigit (c.toNat / 16), hexDigit (c.toNat % 16)]
  else [c]

/-- A text between quotes. -/
def quote (text : String) : String :=
  "\"" ++ String.ofList (text.toList.flatMap escapeChar) ++ "\""

/-- A number with a point, null where JSON has no number. -/
def floatJson (x : Float) : String :=
  if x.isFinite then
    let text := floatText x
    if text.toList.contains '.' then text else text ++ ".0"
  else "null"

mutual

/-- The text of a value. -/
def render : Json → String
  | .null => "null"
  | .bool b => if b then "true" else "false"
  | .int n => toString n
  | .float x => floatJson x
  | .str s => quote s
  | .arr items => "[" ++ ",".intercalate (renderItems items) ++ "]"
  | .obj fields => "\x7b" ++ ",".intercalate (renderFields fields) ++ "\x7d"

/-- The texts of the items of a list. -/
def renderItems : List Json → List String
  | [] => []
  | item :: rest => render item :: renderItems rest

/-- The texts of the fields of an object. -/
def renderFields : List (String × Json) → List String
  | [] => []
  | (name, value) :: rest => (quote name ++ ":" ++ render value) :: renderFields rest

end

mutual

/-- The canonical text of a value. Fields stand in the order of their names as they are written,
with quotation marks and escapes. -/
def canonical : Json → String
  | .null => "null"
  | .bool b => if b then "true" else "false"
  | .int n => toString n
  | .float x => (canonicalFloatText? x).getD "null"
  | .str s => quote s
  | .arr items => "[" ++ ",".intercalate (canonicalItems items) ++ "]"
  | .obj fields =>
    let texts := (canonicalFields fields).mergeSort fun a b => a.1 ≤ b.1
    "\x7b" ++ ",".intercalate (texts.map fun text => text.1 ++ ":" ++ text.2) ++ "\x7d"

/-- The canonical texts of the items of a list. -/
def canonicalItems : List Json → List String
  | [] => []
  | item :: rest => canonical item :: canonicalItems rest

/-- The quoted names of an object with the canonical texts of their values. -/
def canonicalFields : List (String × Json) → List (String × String)
  | [] => []
  | (name, value) :: rest => (quote name, canonical value) :: canonicalFields rest

end

end Assessment.Json
