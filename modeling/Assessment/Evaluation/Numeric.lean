import Assessment.Fault
import Assessment.Options

/-!
# Arithmetic of expressions

Numbers in expressions are words or doubles. Arithmetic stays in words as long as all operands are
words; a result outside their range is an overflow, which either faults or takes the end of the
range, as the options say.
-/

namespace Assessment

/-- The number of an operand. -/
inductive Number where
  /-- A signed word. -/
  | word (value : Int64)
  /-- A double. -/
  | double (value : Float)

namespace Number

/-- A number as a double. -/
def toFloat : Number → Float
  | word n => Word.toFloat n
  | double x => x

/-- The word, if the number is one. -/
def word? : Number → Option Int64
  | word n => some n
  | double _ => none

/-- The words of numbers that are all words. -/
def words? (numbers : List Number) : Option (List Int64) := numbers.mapM word?

end Number

/-- The double that a value has to be to be numeric and finite. -/
def finiteValue (operation : String) (x : Float) : Except RuntimeFault Value :=
  if x.isFinite then .ok (.float x) else .error (.domain operation .notFinite)

/-- What stands for an integer outside the range of words. -/
def onOverflow (operation : String) (policy : OverflowPolicy) (nearest : Int64) :
    Except RuntimeFault Int64 :=
  match policy with
  | .fail => .error (.overflow operation)
  | .saturate => .ok nearest

/-- The least signed word. -/
def leastWord : Int64 := Int64.minValue

/-- The greatest signed word. -/
def greatestWord : Int64 := Int64.maxValue

/-- The word of a number without sign. -/
def wordOfNat (operation : String) (policy : OverflowPolicy) (n : Nat) :
    Except RuntimeFault Int64 :=
  match Word.narrow? n with
  | some word => .ok word
  | none => onOverflow operation policy greatestWord

/-- An operation on words and on doubles. -/
structure Arithmetic where
  /-- The operation on words; none outside their range. -/
  onWords : Int64 → Int64 → Option Int64
  /-- The operation on doubles. -/
  onDoubles : Float → Float → Float

namespace Arithmetic

/-- Addition. -/
def addition : Arithmetic := ⟨Word.add?, (· + ·)⟩

/-- Subtraction. -/
def subtraction : Arithmetic := ⟨Word.sub?, (· - ·)⟩

/-- Multiplication. -/
def multiplication : Arithmetic := ⟨Word.mul?, (· * ·)⟩

/-- Apply the operation to two words. The sign of the result on doubles tells which end of the
range is the nearer one. -/
def step (arithmetic : Arithmetic) (operation : String) (policy : OverflowPolicy) (a b : Int64) :
    Except RuntimeFault Int64 :=
  match arithmetic.onWords a b with
  | some c => .ok c
  | none =>
    -- doubles do not overflow here, so the sign is right
    let low := arithmetic.onDoubles (Word.toFloat a) (Word.toFloat b) < 0.0
    onOverflow operation policy (if low then leastWord else greatestWord)

/-- Apply the operation to a list of numbers from left to right. -/
def fold (arithmetic : Arithmetic) (operation : String) (policy : OverflowPolicy)
    (numbers : List Number) : Except RuntimeFault Value :=
  match numbers with
  | [] => .error (.typeMismatch operation (.expected "an operand"))
  | first :: rest =>
    match Number.words? (first :: rest) with
    | some (first :: rest) => do
      .ok (.integer (← rest.foldlM (arithmetic.step operation policy) first))
    | _ =>
      -- one double makes the whole sum one of doubles, from the first step on
      let total := rest.foldl (fun total n => arithmetic.onDoubles total n.toFloat) first.toFloat
      finiteValue operation total

end Arithmetic

/-! ### Division of words -/

/-- The quotient, rounded down: one below the one that is rounded toward zero, where that one was
rounded up. -/
def divideDown (operation : String) (policy : OverflowPolicy) (x y : Int64) :
    Except RuntimeFault Int64 :=
  if y = 0 then .error (.divisionByZero operation)
  else
    match Word.div? x y with
    | some quotient =>
      .ok (if x % y ≠ 0 ∧ Word.signsDiffer x y then quotient - 1 else quotient)
    -- only the least word divided by minus one leaves the range, above
    | none => onOverflow operation policy greatestWord

/-- The remainder of the quotient that is rounded down. It has the sign of the divisor. -/
def remainderDown (operation : String) (x y : Int64) : Except RuntimeFault Int64 :=
  if y = 0 then .error (.divisionByZero operation)
  else
    -- a division that leaves the range is one without a remainder
    let remainder := (Word.mod? x y).getD 0
    .ok (if remainder ≠ 0 ∧ Word.signsDiffer remainder y then remainder + y else remainder)

/-- Euclid's algorithm on words without sign: one number and the remainder by it take the place of
two numbers, until there is no remainder. -/
def euclid (a b : UInt64) : UInt64 :=
  if b = 0 then a else euclid b (a % b)
termination_by b.toNat
decreasing_by
  rw [UInt64.toNat_mod]
  refine Nat.mod_lt _ (Nat.pos_of_ne_zero fun hzero => ?_)
  exact absurd (UInt64.toNat_inj.1 hzero) (by assumption)

/-- The greatest common divisor of the absolute values. -/
def commonDivisor (words : List Int64) : UInt64 :=
  -- the least word has no absolute value among words, but it has one among those without sign
  words.foldl (fun divisor n => euclid divisor (.ofNat n.toInt.natAbs)) 0

/-- The least common multiple of the absolute values and of a multiple so far. It is an overflow
when a multiple on the way leaves the range of unsigned words. -/
def commonMultiple (operation : String) (policy : OverflowPolicy) :
    Nat → List Int64 → Except RuntimeFault Int64
  | multiple, [] => wordOfNat operation policy multiple
  | multiple, n :: rest =>
    let size := n.toInt.natAbs
    -- a zero ends the search: words behind it are not looked at
    if size = 0 then .ok 0
    else
      -- dividing first keeps the product as small as it can be
      let next := multiple / Nat.gcd multiple size * size
      if next < Word.count then commonMultiple operation policy next rest
      else onOverflow operation policy greatestWord

/-! ### Rounding -/

/-- The integer part of a double. -/
def integerPart (x : Float) : Float := if x < 0.0 then x.ceil else x.floor

/-- The nearest integer of a double; a half goes up. -/
def nearestInteger (x : Float) : Float := (x + 0.5).floor

/-- The nearest integer of a double; a half goes away from zero. -/
def awayFromZero (x : Float) : Float :=
  let size := x.abs
  -- greater doubles have no fraction
  if size < 4503599627370496.0 then
    let whole := size.toUInt64.toFloat
    let nearest := if size - whole < 0.5 then whole else whole + 1.0
    -- the sign is kept, also that of a zero
    if x.toBits < 0x8000000000000000 then nearest else -nearest
  else x

/-- The word of a double without a fraction, if it is in the range. -/
def wordOfFloat? (x : Float) : Option Int64 :=
  -- both bounds are doubles; the upper one is the first above the range
  if -9223372036854775808.0 ≤ x ∧ x < 9223372036854775808.0 then some x.toInt64 else none

/-- A number made whole by a way of rounding. There is none for infinities and what is no number. -/
def wholeNumber (operation : String) (policy : OverflowPolicy) (rounding : Float → Float) :
    Number → Except RuntimeFault Value
  | .word n => .ok (.integer n)
  | .double x =>
    if !x.isFinite then .ok .null
    else
      let rounded := rounding x
      match wordOfFloat? rounded with
      | some n => .ok (.integer n)
      | none => do
        let nearest := if rounded < 0.0 then leastWord else greatestWord
        .ok (.integer (← onOverflow operation policy nearest))

/-- Multiply by a power of a number, by squaring; looks at so many binary digits of the exponent. -/
def scaleByPower : Nat → Float → Float → Nat → Float
  | 0, result, _, _ => result
  | steps + 1, result, base, exponent =>
    let result := if exponent % 2 = 1 then result * base else result
    if exponent < 2 then result else scaleByPower steps result (base * base) (exponent / 2)

/-- A power of ten; negative powers are reciprocals. -/
def powerOfTen (exponent : Int) : Float :=
  let size := scaleByPower 64 1.0 10.0 exponent.natAbs
  if exponent < 0 then 1.0 / size else size

/-- How many decimal places rounding keeps; negative before the point. -/
def placesKept? (x : Float) (mode : RoundingMode) (figures : Int64) : Option Int :=
  match mode with
  | .significantFigures =>
    if figures < 1 then none
    -- the digits before the point, counted by the logarithm
    else (wordOfFloat? x.abs.log10.floor).map fun magnitude =>
      figures.toInt - (magnitude.toInt + 1)
  | .decimalPlaces => if figures < 0 then none else some figures.toInt

/-- A double rounded to some figures. It stays as it is where the figures are out of reach. -/
def roundFigures (operation : String) (x : Float) (mode : RoundingMode) (figures : Int64) :
    Except RuntimeFault Float :=
  let invalid := .error (.domain operation (.badFigures figures mode))
  if !x.isFinite then .ok x
  else if mode = .significantFigures && 1 ≤ figures && x == 0.0 then .ok 0.0
  else
    match placesKept? x mode figures with
    | none => invalid
    | some places =>
      -- the exponent has to be a half word
      if places < -0x80000000 ∨ 0x80000000 ≤ places then invalid
      else
        let factor := powerOfTen places
        let scaled := x * factor
        -- so many places are beyond the precision of a double anyway
        if !factor.isFinite || factor == 0.0 || !scaled.isFinite then .ok x
        else .ok (awayFromZero scaled / factor)

end Assessment
