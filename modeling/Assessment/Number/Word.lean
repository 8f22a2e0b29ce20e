/-!
# Integers of 64 bits

Integer variables hold signed words of 64 bits. Arithmetic on them is done on the integers and
then narrowed, so that a result outside the range is seen and never wraps.

`toInt_of_narrow?` and `narrow?_toInt` say that narrowing succeeds exactly on the range and keeps
the number.
-/

namespace Assessment.Word

/-- The least signed word. -/
def least : Int := -0x8000000000000000

/-- The greatest signed word. -/
def greatest : Int := 0x7FFFFFFFFFFFFFFF

/-- How many words there are. -/
def count : Nat := 0x10000000000000000

/-- The signed word of an integer, if the integer is in the range. -/
def narrow? (n : Int) : Option Int64 :=
  if least ≤ n ∧ n ≤ greatest then some (Int64.ofInt n) else none

theorem toInt_of_narrow? {n : Int} {w : Int64} (h : narrow? n = some w) : w.toInt = n := by
  unfold narrow? at h
  split at h
  · rename_i range
    obtain ⟨low, high⟩ := range
    cases h
    apply Int64.toInt_ofInt_of_le
    · simpa [least] using low
    · simp only [greatest] at high
      omega
  · cases h

theorem range_toInt (w : Int64) : least ≤ w.toInt ∧ w.toInt ≤ greatest := by
  refine ⟨?_, ?_⟩
  · have := Int64.le_toInt w
    simp only [least]
    omega
  · have := Int64.toInt_lt w
    simp only [greatest]
    omega

/-- The size of a word is a word without sign, also that of the least one. -/
theorem toNat_ofNat_natAbs (w : Int64) :
    (UInt64.ofNat w.toInt.natAbs).toNat = w.toInt.natAbs := by
  have hrange := range_toInt w
  simp only [least, greatest] at hrange
  refine UInt64.toNat_ofNat_of_lt' (show w.toInt.natAbs < 0x10000000000000000 from ?_)
  omega

@[simp]
theorem narrow?_toInt (w : Int64) : narrow? w.toInt = some w := by
  simp [narrow?, range_toInt w]

theorem narrow?_eq_none_iff {n : Int} : narrow? n = none ↔ n < least ∨ greatest < n := by
  unfold narrow?
  split
  · rename_i range
    simp only [reduceCtorEq, false_iff]
    omega
  · rename_i range
    simp only [true_iff]
    omega

/-- The double nearest to a word. -/
def toFloat (w : Int64) : Float :=
  let size := (UInt64.ofNat w.toInt.natAbs).toFloat
  if w < 0 then -size else size

/-- The sum, if it is in the range. -/
def add? (a b : Int64) : Option Int64 := narrow? (a.toInt + b.toInt)

/-- The difference, if it is in the range. -/
def sub? (a b : Int64) : Option Int64 := narrow? (a.toInt - b.toInt)

/-- The product, if it is in the range. -/
def mul? (a b : Int64) : Option Int64 := narrow? (a.toInt * b.toInt)

/-- The quotient, rounded toward zero, if it is in the range. There is none by zero. -/
def div? (a b : Int64) : Option Int64 := if b = 0 then none else narrow? (a.toInt.tdiv b.toInt)

/-- The remainder of that quotient. There is none where there is no quotient. -/
def mod? (a b : Int64) : Option Int64 := (div? a b).map fun _ => a % b

/-- Whether one of two words is below zero and the other is not. -/
def signsDiffer (a b : Int64) : Bool := decide (a < 0) != decide (b < 0)

/-- The successor, held at the greatest word. -/
def succSaturating (a : Int64) : Int64 := (narrow? (a.toInt + 1)).getD a

theorem le_succSaturating (a : Int64) : a.toInt ≤ (succSaturating a).toInt := by
  unfold succSaturating
  cases h : narrow? (a.toInt + 1) with
  | none => exact Int.le_refl _
  | some next =>
    rw [Option.getD_some, toInt_of_narrow? h]
    omega

end Assessment.Word
