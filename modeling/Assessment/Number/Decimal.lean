import Assessment.Number.BinaryFraction

/-!
# Decimal text of doubles

A finite double is written with the fewest digits that read back as it, and of those the nearest.
Selecting the digits is one step, `Decimal.shortest`, done in exact arithmetic: the decimal grids
are tried from the coarsest on, and on each grid only the two neighbours of the number can be the
nearest point. Laying the digits out is another, with two layouts: `positional` never uses an
exponent and `canonical` is the layout of canonical JSON.
-/

namespace Assessment

/-- The positive number `digits · 10 ^ exponent`. -/
structure Decimal where
  /-- The significant digits, read as one whole number. -/
  digits : Nat
  /-- The power of ten that the digits count. -/
  exponent : Int

/-- Where the middle between two digits goes. -/
inductive HalfWay where
  /-- To the greater neighbour. -/
  | up
  /-- To the even neighbour. -/
  | even

namespace Decimal

/-- The positive numbers that read back as one double, all counted in the same unit. -/
structure Basin where
  /-- The double itself. -/
  value : Nat
  /-- The lower end. -/
  low : Nat
  /-- The upper end. -/
  high : Nat
  /-- Whether the two ends read back as the double too. -/
  closed : Bool
  /-- How many units make one. -/
  one : Nat

/-- The basin of a positive double. The lower neighbour of a power of two is only half as far away
as the upper one. -/
def Basin.of (mantissa : Nat) (exponent : Int) : Basin :=
  let scale := Nat.pow 2 (exponent - 2).toNat
  let narrow := mantissa = BinaryFraction.leadingBit ∧ exponent ≠ -1074
  { value := 4 * mantissa * scale
    low := (4 * mantissa - (if narrow then 1 else 2)) * scale
    high := (4 * mantissa + 2) * scale
    closed := mantissa % 2 = 0
    one := Nat.pow 2 (2 - exponent).toNat }

/-- Whether a number, counted in the unit of the basin, reads back as the double. -/
def Basin.has (basin : Basin) (n : Nat) : Bool :=
  if basin.closed then basin.low ≤ n && n ≤ basin.high else basin.low < n && n < basin.high

/-- The basin counted in units finer by a factor. -/
def Basin.refine (basin : Basin) (factor : Nat) : Basin :=
  { basin with
    value := basin.value * factor
    low := basin.low * factor
    high := basin.high * factor
    one := basin.one * factor }

/-- The point of the grid `10 ^ exponent` nearest to the double, if it reads back as it. -/
def Basin.nearest? (half : HalfWay) (basin : Basin) (exponent : Int) : Option Nat :=
  let fine := basin.refine (Nat.pow 10 (-exponent).toNat)
  let step := basin.one * Nat.pow 10 exponent.toNat
  let below := fine.value / step
  let above := below + 1
  let twice := 2 * (fine.value % step)
  let upAtHalf := match half with
    | .up => true
    | .even => below % 2 = 1
  let up := step < twice || (step = twice && upAtHalf)
  -- only the two neighbours on the grid can be nearest
  match fine.has (below * step), fine.has (above * step) with
  | true, true => some (if up then above else below)
  | true, false => some below
  | false, true => some above
  | false, false => none

/-- The nearest point of the first grid with a hit, from `10 ^ exponent` to finer grids. -/
def coarsest (half : HalfWay) (basin : Basin) : Nat → Int → Decimal
  | 0, exponent => ⟨basin.value / basin.one, exponent⟩
  | fuel + 1, exponent =>
    match basin.nearest? half exponent with
    | some digits => ⟨digits, exponent⟩
    | none => coarsest half basin fuel (exponent - 1)

/-- The shortest decimal that reads back as the double `mantissa · 2 ^ exponent`. Seventeen digits
always do, and the first grid tried is at most four places too coarse. -/
def shortest (half : HalfWay) (mantissa : Nat) (exponent : Int) : Decimal :=
  -- the decimal logarithm, from the binary one
  let start := ((exponent + mantissa.log2 + 1) * 30103) / 100000 + 1
  coarsest half (Basin.of mantissa exponent) 24 start

/-- `count` zeros. -/
def zeros (count : Nat) : String := String.ofList (List.replicate count '0')

/-- The digits with the decimal point after the first `point` of them. -/
def withPoint (digits : List Char) (point : Nat) : String :=
  String.ofList (digits.take point) ++ "." ++ String.ofList (digits.drop point)

/-- The number without an exponent. -/
def positional (x : Decimal) : String :=
  let digits := (toString x.digits).toList
  let point := x.exponent + digits.length
  if 0 ≤ x.exponent then String.ofList digits ++ zeros x.exponent.toNat
  else if 0 < point then withPoint digits point.toNat
  else "0." ++ zeros (-point).toNat ++ String.ofList digits

/-- The number with an exponent, which starts at 21 digits before the point and at seven places
after it. -/
def canonical (x : Decimal) : String :=
  let digits := (toString x.digits).toList
  let point := x.exponent + digits.length
  if -6 < point ∧ point ≤ 21 then x.positional
  else
    let power := point - 1
    let sign := if power < 0 then "e-" else "e+"
    let lead := if digits.length = 1 then String.ofList digits else withPoint digits 1
    lead ++ sign ++ toString power.natAbs

end Decimal

/-- The text of a double without an exponent: the shortest decimal that reads back. -/
def floatText (x : Float) : String :=
  match BinaryFraction.ofFloat? x with
  | some value =>
    let text :=
      if value.mantissa = 0 then "0"
      else (Decimal.shortest .up value.mantissa value.exponent).positional
    if value.negative then "-" ++ text else text
  | none => if x.isNaN then "NaN" else if x < 0.0 then "-inf" else "inf"

/-- The text of a double in canonical JSON; `none` where JSON has no number for it. -/
def canonicalFloatText? (x : Float) : Option String :=
  (BinaryFraction.ofFloat? x).map fun value =>
    if value.mantissa = 0 then "0"
    else
      let text := (Decimal.shortest .even value.mantissa value.exponent).canonical
      if value.negative then "-" ++ text else text

end Assessment
