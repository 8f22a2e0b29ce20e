import Assessment.Json.Basic
import Assessment.Number.Reading

/-!
# Reading JSON text

A reader for JSON text that follows the standard grammar without extensions. Of two values with one
name in an object the later counts, numbers too large for a double are refused, and so are texts in
which lists and objects are nested more than 127 deep.

The readers of nested values call each other on ever shorter texts; `budget` bounds the number of
nested calls, and the length of the text is always enough.
-/

namespace Assessment.Json

/-- Whether a character is white space between tokens. -/
def isSpace (c : Char) : Bool := c = ' ' || c = '\t' || c = '\n' || c = '\r'

/-- The text from its first token on. -/
def skipSpace (cs : List Char) : List Char := cs.dropWhile isSpace

/-- The value of a hexadecimal digit. -/
def hexValue? (c : Char) : Option Nat :=
  if c.isDigit then some (c.toNat - 48)
  else if 'a' ≤ c && c ≤ 'f' then some (c.toNat - 87)
  else if 'A' ≤ c && c ≤ 'F' then some (c.toNat - 55)
  else none

/-- The number that four hexadecimal digits write, and the rest. -/
def readHex4 : List Char → Option (Nat × List Char)
  | a :: b :: c :: d :: rest => do
    let a ← hexValue? a
    let b ← hexValue? b
    let c ← hexValue? c
    let d ← hexValue? d
    some (4096 * a + 256 * b + 16 * c + d, rest)
  | _ => none

/-- The character that an escape of four digits stands for. A code point beyond the first plane is
written as a pair of surrogates, and a surrogate without its partner is refused. -/
def readUnicodeEscape (cs : List Char) : Option (Char × List Char) := do
  let (first, rest) ← readHex4 cs
  if 0xD800 ≤ first && first < 0xDC00 then
    match rest with
    | '\\' :: 'u' :: more =>
      let (second, rest) ← readHex4 more
      if 0xDC00 ≤ second && second < 0xE000 then
        some (Char.ofNat (0x10000 + (first - 0xD800) * 0x400 + (second - 0xDC00)), rest)
      else none
    | _ => none
  else if 0xDC00 ≤ first && first < 0xE000 then none
  else some (Char.ofNat first, rest)

/-- The character that a one-letter escape stands for. -/
def simpleEscape? (c : Char) : Option Char :=
  match c with
  | '"' => some '"'
  | '\\' => some '\\'
  | '/' => some '/'
  | 'b' => some (Char.ofNat 8)
  | 'f' => some (Char.ofNat 12)
  | 'n' => some '\n'
  | 'r' => some '\r'
  | 't' => some '\t'
  | _ => none

/-- The rest of a string after its opening quote. `done` holds the characters read, backwards. -/
def readString : Nat → List Char → List Char → Option (String × List Char)
  | 0, _, _ => none
  | budget + 1, done, cs =>
    match cs with
    | [] => none
    | '"' :: rest => some (String.ofList done.reverse, rest)
    | '\\' :: 'u' :: rest =>
      match readUnicodeEscape rest with
      | some (c, rest) => readString budget (c :: done) rest
      | none => none
    | '\\' :: c :: rest =>
      match simpleEscape? c with
      | some c => readString budget (c :: done) rest
      | none => none
    -- control characters have to be escaped
    | c :: rest => if c.toNat < 0x20 || c = '\\' then none else readString budget (c :: done) rest

/-- The digits at the start of a text, and the rest. -/
def splitDigits (cs : List Char) : List Char × List Char :=
  (cs.takeWhile Char.isDigit, cs.dropWhile Char.isDigit)

/-- The decimal places at the start of a text: none, or a point and at least one digit. -/
def readPlaces : List Char → Option (List Char × List Char)
  | '.' :: rest =>
    let (places, rest) := splitDigits rest
    if places.isEmpty then none else some (places, rest)
  | rest => some ([], rest)

/-- The exponent at the start of a text: none, or a mark, a sign and at least one digit. The flag
says whether there is one. -/
def readPower : List Char → Option (Bool × Int × List Char)
  | c :: rest =>
    if c = 'e' || c = 'E' then
      let (negative, rest) := splitSign rest
      let (digits, rest) := splitDigits rest
      if digits.isEmpty then none
      else
        let size : Int := Int.ofNat (digitsValue 0 digits)
        some (true, if negative then -size else size, rest)
    else some (false, 0, c :: rest)
  | [] => some (false, 0, [])

/-- The number for a sign, the digits before and after the point, and the power of ten. Without
places and exponent it is whole if a word of 64 bits holds it; minus zero is not whole. -/
def makeNumber (negative : Bool) (whole places : List Char) (powered : Bool) (power : Int) :
    Option Json :=
  let size := digitsValue 0 whole
  let inRange := if negative then 0 < size && size ≤ 0x8000000000000000 else size < Word.count
  if places.isEmpty && !powered && inRange then
    some (.int (if negative then -Int.ofNat size else Int.ofNat size))
  else
    -- one rounding, from all digits at once
    let value := decimalFloat (digitsValue size places) (power - places.length)
    if value.isFinite then some (.float (if negative then -value else value)) else none

/-- A number at the start of a text. A leading zero stands alone. -/
def readNumber (cs : List Char) : Option (Json × List Char) := do
  let (negative, cs) := match cs with
    | '-' :: rest => (true, rest)
    | rest => (false, rest)
  let (whole, rest) := match cs with
    -- digits behind a leading zero are left over, and the text is refused later
    | '0' :: rest => (['0'], rest)
    | rest => splitDigits rest
  if whole.isEmpty then none
  let (places, rest) ← readPlaces rest
  let (powered, power, rest) ← readPower rest
  let number ← makeNumber negative whole places powered power
  some (number, rest)

/-- The rest after a word, if the text starts with it. -/
def afterWord : List Char → List Char → Option (List Char)
  | [], cs => some cs
  | w :: word, c :: cs => if w = c then afterWord word cs else none
  | _ :: _, [] => none

mutual

/-- A value at the start of a text; `depth` is how much deeper it may nest. -/
def readValue : Nat → Nat → List Char → Option (Json × List Char)
  | 0, _, _ => none
  | budget + 1, depth, cs =>
    match skipSpace cs with
    | [] => none
    | 'n' :: rest => (afterWord ['u', 'l', 'l'] rest).map fun rest => (.null, rest)
    | 't' :: rest => (afterWord ['r', 'u', 'e'] rest).map fun rest => (.bool true, rest)
    | 'f' :: rest => (afterWord ['a', 'l', 's', 'e'] rest).map fun rest => (.bool false, rest)
    | '"' :: rest => (readString (rest.length + 1) [] rest).map fun (s, rest) => (.str s, rest)
    | '[' :: rest =>
      match depth with
      | 0 => none
      | depth + 1 =>
        match skipSpace rest with
        | ']' :: rest => some (.arr [], rest)
        | rest => (readItems budget depth [] rest).map fun (items, rest) => (.arr items, rest)
    | '\x7b' :: rest =>
      match depth with
      | 0 => none
      | depth + 1 =>
        match skipSpace rest with
        | '\x7d' :: rest => some (.obj [], rest)
        | rest => (readFields budget depth [] rest).map fun (fields, rest) => (.obj fields, rest)
    | c :: rest => readNumber (c :: rest)

/-- The items of a list up to its end. `done` holds the items read, backwards. -/
def readItems : Nat → Nat → List Json → List Char → Option (List Json × List Char)
  | 0, _, _, _ => none
  | budget + 1, depth, done, cs =>
    match readValue budget depth cs with
    | none => none
    | some (item, rest) =>
      match skipSpace rest with
      | ',' :: rest => readItems budget depth (item :: done) rest
      | ']' :: rest => some ((item :: done).reverse, rest)
      | _ => none

/-- The fields of an object up to its end, after those in `done`. -/
def readFields : Nat → Nat → List (String × Json) → List Char →
    Option (List (String × Json) × List Char)
  | 0, _, _, _ => none
  | budget + 1, depth, done, cs =>
    match skipSpace cs with
    | '"' :: rest =>
      match readString (rest.length + 1) [] rest with
      | none => none
      | some (name, rest) =>
        match skipSpace rest with
        | ':' :: rest =>
          match readValue budget depth rest with
          | none => none
          | some (value, rest) =>
            match skipSpace rest with
            | ',' :: rest => readFields budget depth (setField name value done) rest
            | '\x7d' :: rest => some (setField name value done, rest)
            | _ => none
        | _ => none
    | _ => none

end

/-- How deep lists and objects may nest. -/
def maxDepth : Nat := 127

/-- The value that a text writes. -/
def read? (text : String) : Option Json :=
  let cs := text.toList
  match readValue (2 * cs.length + 2) maxDepth cs with
  | some (value, rest) => if (skipSpace rest).isEmpty then some value else none
  | none => none

end Assessment.Json
