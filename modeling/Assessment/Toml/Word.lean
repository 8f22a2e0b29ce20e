import Assessment.Json.Basic
import Assessment.Number.Reading

/-!
# Words of TOML

The values that stand without quotation marks: truth values, whole numbers in four bases, numbers
with a point or an exponent, and times. Numbers with a point and times are checked and not told
apart: nothing in the library is configured by them.
-/

namespace Assessment.Toml

/-! ### Numbers -/

/-- The value of a hexadecimal digit. -/
def hexDigit? (c : Char) : Option Nat :=
  if c.isDigit then some (c.toNat - 48)
  else if 'a' ≤ c ∧ c ≤ 'f' then some (c.toNat - 87)
  else if 'A' ≤ c ∧ c ≤ 'F' then some (c.toNat - 55)
  else none

/-- The number that digits of a base write, with single underscores between them. -/
def digitsOf? (base : Nat) (text : List Char) : Option Nat :=
  let digits := text.filter (· ≠ '_')
  let parts := (String.ofList text).splitOn "_"
  if parts.any String.isEmpty then none
  else do
    let values ← digits.mapM hexDigit?
    if values.all (· < base) then some (values.foldl (fun n value => base * n + value) 0) else none

/-- The whole number that decimal digits write; no zeros stand in front. -/
def decimalOf? (text : List Char) : Option Nat :=
  if text.length ≠ 1 ∧ text.head? = some '0' then none else digitsOf? 10 text

/-- The whole number that a word writes. -/
def integerOf? : List Char → Option Int
  | '0' :: 'x' :: digits => (digitsOf? 16 digits).map Int.ofNat
  | '0' :: 'o' :: digits => (digitsOf? 8 digits).map Int.ofNat
  | '0' :: 'b' :: digits => (digitsOf? 2 digits).map Int.ofNat
  | '+' :: digits => (decimalOf? digits).map Int.ofNat
  | '-' :: digits => (decimalOf? digits).map fun n => -Int.ofNat n
  | digits => (decimalOf? digits).map Int.ofNat

/-- Whether a text is empty or an exponent. -/
def isExponent : List Char → Bool
  | [] => true
  | c :: rest => (c = 'e' || c = 'E') && (digitsOf? 10 (splitSign rest).2).isSome

/-- Whether a word is a number with a point or an exponent, or one of the words for what is no
finite number. -/
def isDecimal (text : List Char) : Bool :=
  let size := (splitSign text).2
  let isPlace (c : Char) : Bool := c.isDigit || c = '_'
  let whole := size.takeWhile isPlace
  size = "inf".toList || size = "nan".toList || (decimalOf? whole).isSome &&
    match size.drop whole.length with
    | '.' :: rest =>
      (digitsOf? 10 (rest.takeWhile isPlace)).isSome && isExponent (rest.dropWhile isPlace)
    | rest => isExponent rest

/-! ### Times -/

/-- Read a number of two digits. -/
def readTwo : List Char → Option (Nat × List Char)
  | a :: b :: rest =>
    if a.isDigit && b.isDigit then some (digitsValue 0 [a, b], rest) else none
  | _ => none

/-- How many days a month has. -/
def daysIn (year month : Nat) : Nat :=
  let isLeap := year % 4 = 0 ∧ (year % 100 ≠ 0 ∨ year % 400 = 0)
  if month = 2 then if isLeap then 29 else 28
  else if month ∈ [4, 6, 9, 11] then 30 else 31

/-- Skip a date: a year of four digits, a month and a day. -/
def skipDate (chars : List Char) : Option (List Char) := do
  let (century, chars) ← readTwo chars
  let (year, chars) ← readTwo chars
  match chars with
  | '-' :: chars => do
    let (month, chars) ← readTwo chars
    match chars with
    | '-' :: chars => do
      let (day, chars) ← readTwo chars
      let isDate := 1 ≤ month ∧ month ≤ 12 ∧ 1 ≤ day ∧ day ≤ daysIn (100 * century + year) month
      if isDate then some chars else none
    | _ => none
  | _ => none

/-- Skip an hour and a minute. -/
def skipMinute (chars : List Char) : Option (List Char) := do
  let (hour, chars) ← readTwo chars
  match chars with
  | ':' :: chars => do
    let (minute, chars) ← readTwo chars
    if hour ≤ 23 ∧ minute ≤ 59 then some chars else none
  | _ => none

/-- Skip a time of day: an hour, a minute, and perhaps a second with its fraction. -/
def skipTime (chars : List Char) : Option (List Char) := do
  match ← skipMinute chars with
  | ':' :: chars => do
    let (second, chars) ← readTwo chars
    if 60 < second then none
    match chars with
    | '.' :: c :: chars => if c.isDigit then some (chars.dropWhile Char.isDigit) else none
    | _ => some chars
  | chars => some chars

/-- Whether a text is empty or the distance of a clock from that of Greenwich. -/
def isOffset : List Char → Bool
  | [] => true
  | [c] => c = 'Z' || c = 'z'
  | c :: rest => (c = '+' || c = '-') && skipMinute rest = some []

/-- Whether a word is a date, a time of day, or both with or without a distance. -/
def isTime (text : List Char) : Bool :=
  skipTime text = some [] ||
    match skipDate text with
    | some [] => true
    | some (c :: rest) =>
      (c = 'T' || c = 't' || c = ' ') && ((skipTime rest).map isOffset).getD false
    | none => false

/-! ### Words -/

/-- The value of a word without quotation marks. -/
def wordValue? (text : List Char) : Option Json :=
  if text = "true".toList then some (.bool true)
  else if text = "false".toList then some (.bool false)
  else
    match integerOf? text with
    | some n => some (.int n)
    -- nothing reads its value
    | none => if isDecimal text || isTime text then some (.float 0.0) else none

/-- Whether a character may stand in a key without quotation marks. -/
def isBare (c : Char) : Bool := c.isAlphanum || c = '_' || c = '-'

/-- Whether a character may stand in a word without quotation marks. -/
def isWordChar (c : Char) : Bool := isBare c || c = '+' || c = '.' || c = ':'

/-- Read a word and its value. A date may go on behind a space with a time of day. -/
def readWord (chars : List Char) : Option (Json × List Char) := do
  let word := chars.takeWhile isWordChar
  let rest := chars.drop word.length
  match skipDate word, rest with
  | some [], ' ' :: c :: more =>
    if c.isDigit then
      let time := (c :: more).takeWhile isWordChar
      some (← wordValue? (word ++ ' ' :: time), (c :: more).drop time.length)
    else some (← wordValue? word, rest)
  | _, _ => some (← wordValue? word, rest)

end Assessment.Toml
