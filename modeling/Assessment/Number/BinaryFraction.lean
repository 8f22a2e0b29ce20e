/-!
# Binary fractions

A finite double is a whole number times a power of two. Sums and products of such numbers are
again of that form, so they can be computed exactly and rounded once at the end.
-/

namespace Assessment

/-- The number `mantissa · 2 ^ exponent`, negated if `negative`. -/
structure BinaryFraction where
  /-- Whether the number is below zero. -/
  negative : Bool
  /-- The absolute value, in units of `2 ^ exponent`. -/
  mantissa : Nat
  /-- The power of two that the mantissa counts. -/
  exponent : Int

namespace BinaryFraction

/-- The bit in front of the written ones of a mantissa. It is one unless the double is
subnormal. -/
def leadingBit : Nat := 0x10000000000000

/-- The bit that tells the sign of a double. -/
def signBit : Nat := 0x8000000000000000

/-- The exact value of a double; `none` for infinities and for values that are no number. -/
def ofFloat? (x : Float) : Option BinaryFraction :=
  let bits := x.toBits.toNat
  let exponent : Nat := bits / leadingBit % 2048
  let fraction := bits % leadingBit
  let negative := bits / signBit = 1
  if exponent = 2047 then none
  else if exponent = 0 then some ⟨negative, fraction, -1074⟩
  else some ⟨negative, fraction + leadingBit, Int.ofNat exponent - 1075⟩

/-- The whole number nearest to `n / 2 ^ shift`; a half goes to the even neighbour. -/
def roundShift (n shift : Nat) : Nat :=
  let unit := Nat.pow 2 shift
  let quotient := n / unit
  let twice := 2 * (n % unit)
  if twice < unit then quotient
  else if unit < twice then quotient + 1
  else quotient + quotient % 2

/-- The double nearest to a binary fraction; a half goes to the even neighbour. -/
def toFloat (x : BinaryFraction) : Float :=
  let sign := if x.negative then signBit else 0
  if x.mantissa = 0 then Float.ofBits (UInt64.ofNat sign)
  else
    -- the weight of the last bit that is kept; subnormal doubles have a fixed one
    let unit := max (x.exponent + x.mantissa.log2 - 52) (-1074)
    let rounded :=
      if unit ≤ x.exponent then x.mantissa * Nat.pow 2 (x.exponent - unit).toNat
      else roundShift x.mantissa (unit - x.exponent).toNat
    -- a mantissa that rounds up to the next power of two carries into the exponent
    let bits := (unit + 1074).toNat * leadingBit + rounded
    Float.ofBits (UInt64.ofNat (sign + min bits (2047 * leadingBit)))

/-- The exact product. -/
def mul (x y : BinaryFraction) : BinaryFraction :=
  ⟨x.negative != y.negative, x.mantissa * y.mantissa, x.exponent + y.exponent⟩

/-- The signed mantissa in units of `2 ^ unit`, for a unit that is no coarser than the number's. -/
def scaled (x : BinaryFraction) (unit : Int) : Int :=
  let size : Int := Int.ofNat (x.mantissa * Nat.pow 2 (x.exponent - unit).toNat)
  if x.negative then -size else size

/-- The exact sum. -/
def add (x y : BinaryFraction) : BinaryFraction :=
  let unit := min x.exponent y.exponent
  let total := x.scaled unit + y.scaled unit
  ⟨total < 0, total.natAbs, unit⟩

end BinaryFraction

/-- `x · y + z`, rounded once. -/
def fusedMulAdd (x y z : Float) : Float :=
  match BinaryFraction.ofFloat? x, BinaryFraction.ofFloat? y, BinaryFraction.ofFloat? z with
  | some a, some b, some c =>
    let total := (a.mul b).add c
    -- the sign of a zero follows the rule of sums
    if total.mantissa = 0 then x * y + z else total.toFloat
  | _, _, _ => x * y + z

end Assessment
