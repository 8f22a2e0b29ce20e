import Assessment.Number.Word

/-!
# Reading numbers

The texts that are read as integers and as doubles. Both grammars know ASCII digits only and take
the whole text.
-/

namespace Assessment

/-- The value of decimal digits that follow a number already read. -/
def digitsValue (start : Nat) (digits : List Char) : Nat :=
  digits.foldl (fun n c => 10 * n + (c.toNat - 48)) start

/-- A sign, if one stands first: whether it is a minus, and the rest. -/
def splitSign : List Char → Bool × List Char
  | '-' :: rest => (true, rest)
  | '+' :: rest => (false, rest)
  | rest => (false, rest)

/-- The integer that a sign and at least one digit write. -/
def readSigned (text : List Char) : Option Int :=
  let (negative, digits) := splitSign text
  if digits.isEmpty || !digits.all Char.isDigit then none
  else
    let size : Int := Int.ofNat (digitsValue 0 digits)
    some (if negative then -size else size)

/-- The word that a text writes: an optional sign and at least one digit. -/
def readWord (text : String) : Option Int64 := readSigned text.toList >>= Word.narrow?

/-- The word that a literal writes. A plus sign may stand in front of all that `readWord` reads, so
that a text may begin with two signs. -/
def readInteger (text : String) : Option Int64 :=
  match text.toList with
  | '+' :: rest => readSigned rest >>= Word.narrow?
  | chars => readSigned chars >>= Word.narrow?

/-- The double nearest to `mantissa · 10 ^ exponent`. Exponents that leave the range of doubles
whatever the mantissa is are cut short. -/
def decimalFloat (mantissa : Nat) (exponent : Int) : Float :=
  if mantissa = 0 then 0.0
  else
    let magnitude := exponent + (toString mantissa).length
    -- far beyond the greatest double, so there is no need for the power
    if 400 < magnitude then Float.ofBits 0x7FF0000000000000
    else if magnitude < -400 then 0.0
    else if exponent < 0 then Float.ofScientific mantissa true exponent.natAbs
    else Float.ofScientific mantissa false exponent.natAbs

/-- The exponent part of a decimal: nothing, or an `e`, a sign and at least one digit. -/
def readExponent : List Char → Option Int
  | [] => some 0
  | c :: rest => if c = 'e' ∨ c = 'E' then readSigned rest else none

/-- The double that a decimal without a sign writes: digits with an optional point among or beside
them, and an optional exponent. -/
def readDecimal (text : List Char) : Option Float :=
  let whole := text.takeWhile Char.isDigit
  let afterWhole := text.dropWhile Char.isDigit
  let (places, rest) := match afterWhole with
    | '.' :: more => (more.takeWhile Char.isDigit, more.dropWhile Char.isDigit)
    | _ => ([], afterWhole)
  if whole.isEmpty && places.isEmpty then none
  else
    (readExponent rest).map fun exponent =>
      decimalFloat (digitsValue (digitsValue 0 whole) places) (exponent - places.length)

/-- The double that a text writes: an optional sign, and a decimal or one of the words `inf`,
`infinity` and `nan` in any letter case. -/
def readFloat (text : String) : Option Float :=
  let (negative, rest) := splitSign text.toList
  let size? :=
    let word := String.ofList (rest.map Char.toLower)
    if word = "inf" ∨ word = "infinity" then some (Float.ofBits 0x7FF0000000000000)
    else if word = "nan" then some (Float.ofBits 0x7FF8000000000000)
    else readDecimal rest
  size?.map fun size => if negative then -size else size

/-- The truth value that a text writes in full. -/
def readFlag (text : String) : Option Bool :=
  if text = "true" then some true else if text = "false" then some false else none

end Assessment
