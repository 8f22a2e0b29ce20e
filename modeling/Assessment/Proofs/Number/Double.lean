import Assessment.Proofs.Number.Mantissa

/-!
# The values of doubles

A double is packed into 64 bits and unpacked again for every operation. What comes out of an
operation is the double nearest to the exact result, whichever of its cases the operation gets to.

## Main definitions

- `Double.value`: the number that a double stands for, with `Rounding.limit` for infinity.
- `Double.HasValue`: a double is a number, and which one.

## Main results

- `Double.unpack_pack`: what fits is packed without a change.
- `Double.hasValue_of_isRounded`: the outcome of rounding a number is packed into the double nearest
  to it.
-/

open Float.Model Float.Model.UnpackedFloat

namespace Assessment.Double

open Rounding

/-! ### Unpacked doubles -/

/-- A number with a sign. -/
def signed (s : Sign) (x : ℚ) : ℚ :=
  match s with
  | .negative => -x
  | .positive => x

@[simp]
theorem signed_zero (s : Sign) : signed s 0 = 0 := by cases s <;> simp [signed]

theorem abs_signed (s : Sign) (x : ℚ) : |signed s x| = |x| := by cases s <;> simp [signed]

theorem signed_mul (s t : Sign) (x y : ℚ) : signed (s * t) (x * y) = signed s x * signed t y := by
  cases s <;> cases t
  · show x * y = -x * -y
    ring
  · show -(x * y) = -x * y
    ring
  · show -(x * y) = x * -y
    ring
  · rfl

theorem signed_div (s t : Sign) (x y : ℚ) : signed (s / t) (x / y) = signed s x / signed t y := by
  cases s <;> cases t
  · show x / y = -x / -y
    rw [neg_div_neg_eq]
  · show -(x / y) = -x / y
    rw [neg_div]
  · show -(x / y) = x / -y
    rw [div_neg]
  · rfl

theorem signed_neg (s : Sign) (x : ℚ) : signed (-s) x = -signed s x := by
  cases s
  · exact (neg_neg x).symm
  · rfl

theorem signed_apply (s : Sign) (n : ℤ) : ((s.apply n : ℤ) : ℚ) = signed s n := by
  cases s
  · exact Int.cast_neg n
  · rfl

theorem nearest_signed (s : Sign) (x : ℚ) : nearest (signed s x) = signed s (nearest x) := by
  cases s
  · exact nearest_neg x
  · rfl

/-- The number that an unpacked double stands for. -/
def unpackedValue : UnpackedFloat → ℚ
  | .notANumber => 0
  | .infinity s => signed s limit
  | .zero _ => 0
  | .finite s m e _ => signed s (m * 2 ^ e)

/-- The unpacked doubles that can be packed without a change. -/
def Fits : UnpackedFloat → Prop
  | .finite _ m e _ => IsCanonical m e ∧ e ≤ 971
  | _ => True

/-! ### Packing -/

theorem toNat_one_append (mantissa : BitVec 52) :
    (1#1 ++ mantissa).toNat = 2 ^ 52 + mantissa.toNat := by
  rw [BitVec.toNat_append, ← Nat.shiftLeft_add_eq_or_of_lt mantissa.isLt]
  rfl

/-- A double with all its digits is packed without a change, unless its exponent is too great. -/
theorem unpack_pack_of_full (s : Sign) {m : ℕ} {e : ℤ} (hm : 0 < m) (hfull : 2 ^ 52 ≤ m)
    (hlt : m < 2 ^ 53) (hle : -1074 ≤ e) (hle' : e ≤ 971) :
    UnpackedFloat.unpack .binary64 (UnpackedFloat.pack .binary64 (.finite s m e hm)) =
      .finite s m e hm := by
  have hlog : m.log2 = 52 := (Nat.log2_eq_iff hm.ne').2 ⟨hfull, hlt⟩
  obtain ⟨biased, hbiased⟩ : ∃ biased : ℕ, e = biased - 1075 := ⟨(e + 1075).toNat, by omega⟩
  have hexponent : (BitVec.ofNat 11 biased).toNat = biased := by
    rw [BitVec.toNat_ofNat]
    exact Nat.mod_eq_of_lt (by omega)
  have hmantissa : (BitVec.ofNat 52 m).toNat = m - 2 ^ 52 := by
    rw [BitVec.toNat_ofNat]
    omega
  have hpacked : UnpackedFloat.pack .binary64 (.finite s m e hm) =
      packComponents .binary64 s (BitVec.ofNat 11 biased) (BitVec.ofNat 52 m) := by
    have htoNat : (e + (1023 : ℕ) + (52 : ℕ)).toNat = biased := by omega
    show (if 2 ^ 11 ≤ (e + (1023 : ℕ) + (52 : ℕ)).toNat + 1 then _
      else if m.log2 + 1 = 53 then packComponents .binary64 s
        (BitVec.ofNat 11 (e + (1023 : ℕ) + (52 : ℕ)).toNat) (BitVec.ofNat 52 m) else _) = _
    rw [htoNat, if_neg (by omega), if_pos (by omega)]
  have hnotInfinite : BitVec.ofNat 11 biased ≠ -1#11 := by
    intro heq
    have := congrArg BitVec.toNat heq
    rw [hexponent, show (-1#11).toNat = 2047 by rfl] at this
    omega
  have hnotLeast : BitVec.ofNat 11 biased ≠ 0#11 := by
    intro heq
    have := congrArg BitVec.toNat heq
    rw [hexponent, BitVec.toNat_zero] at this
    omega
  rw [hpacked, UnpackedFloat.unpack]
  simp only [unpackMantissa_packComponents, unpackExponent_packComponents,
    unpackSign_packComponents, Sign.ofBitVec_toBitVec]
  rw [if_neg hnotInfinite, if_neg hnotLeast]
  congr 1
  · rw [toNat_one_append, hmantissa]
    omega
  · rw [hexponent, hbiased]
    rfl

/-- A double without all its digits is packed without a change. -/
theorem unpack_pack_of_short (s : Sign) {m : ℕ} (hm : 0 < m) (hlt : m < 2 ^ 52) :
    UnpackedFloat.unpack .binary64 (UnpackedFloat.pack .binary64 (.finite s m (-1074) hm)) =
      .finite s m (-1074) hm := by
  have hlog : m.log2 < 52 := (Nat.log2_lt hm.ne').2 hlt
  have hmantissa : (BitVec.ofNat 52 m).toNat = m := by
    rw [BitVec.toNat_ofNat]
    exact Nat.mod_eq_of_lt hlt
  have hne : BitVec.ofNat 52 m ≠ 0#52 := by
    intro heq
    have := congrArg BitVec.toNat heq
    rw [hmantissa, BitVec.toNat_zero] at this
    omega
  have hpacked : UnpackedFloat.pack .binary64 (.finite s m (-1074) hm) =
      packComponents .binary64 s 0#11 (BitVec.ofNat 52 m) := by
    show (if 2 ^ 11 ≤ ((-1074 : ℤ) + (1023 : ℕ) + (52 : ℕ)).toNat + 1
      then packedInfinity .binary64 s
      else if m.log2 + 1 = 53 then _ else packComponents .binary64 s 0#11 (BitVec.ofNat 52 m)) = _
    rw [if_neg (by decide), if_neg (by omega)]
  rw [hpacked, UnpackedFloat.unpack]
  simp only [unpackMantissa_packComponents, unpackExponent_packComponents,
    unpackSign_packComponents, Sign.ofBitVec_toBitVec]
  rw [if_neg (by decide), if_pos trivial, dif_neg hne]
  congr 1

/-- A double that is too great is packed as infinity. -/
theorem unpack_pack_of_great (s : Sign) {m : ℕ} {e : ℤ} (hm : 0 < m) (hgreat : 971 < e) :
    UnpackedFloat.unpack .binary64 (UnpackedFloat.pack .binary64 (.finite s m e hm)) =
      .infinity s := by
  have hpacked : UnpackedFloat.pack .binary64 (.finite s m e hm) =
      UnpackedFloat.pack .binary64 (.infinity s) := by
    show (if 2 ^ 11 ≤ (e + (1023 : ℕ) + (52 : ℕ)).toNat + 1 then packedInfinity .binary64 s
      else _) = packedInfinity .binary64 s
    rw [if_pos (by omega)]
  rw [hpacked]
  cases s <;> rfl

/-- What fits is packed without a change. -/
theorem unpack_pack {u : UnpackedFloat} (h : Fits u) :
    UnpackedFloat.unpack .binary64 (UnpackedFloat.pack .binary64 u) = u := by
  cases u with
  | notANumber => rfl
  | infinity s => cases s <;> rfl
  | zero s => cases s <;> rfl
  | finite s m e hm =>
    obtain ⟨⟨hlt, hle, hfull⟩, hle'⟩ := h
    by_cases hlong : 2 ^ 52 ≤ m
    · exact unpack_pack_of_full s hm hlong hlt hle hle'
    · obtain rfl := hfull.resolve_left hlong
      exact unpack_pack_of_short s hm (not_le.1 hlong)

/-- What is unpacked fits. -/
theorem fits_unpack (bits : BitVec 64) : Fits (UnpackedFloat.unpack .binary64 bits) := by
  have hmantissa : (@unpackMantissa .binary64 bits).toNat < 2 ^ 52 := BitVec.isLt _
  have hexponent : (@unpackExponent .binary64 bits).toNat < 2 ^ 11 := BitVec.isLt _
  rw [UnpackedFloat.unpack]
  dsimp only
  split
  next =>
    -- The greatest exponent is that of infinities and of what is no number.
    split <;> trivial
  next hnotGreatest =>
    have hlt : (@unpackExponent .binary64 bits).toNat ≠ 2 ^ 11 - 1 := fun heq =>
      hnotGreatest (BitVec.eq_of_toNat_eq (heq.trans rfl))
    split
    next hleast =>
      split
      next => trivial
      next =>
        have hexp : ((@unpackExponent .binary64 bits).toNat - ((1023 : ℕ) + (52 : ℕ) : ℤ)) + 1 =
            -1074 := by
          rw [hleast]
          rfl
        refine ⟨⟨?_, hexp.ge, .inr hexp⟩, ?_⟩
        · exact hmantissa.trans (by decide)
        · exact hexp.trans_le (by decide)
    next hnotLeast =>
      have hpos : (@unpackExponent .binary64 bits).toNat ≠ 0 := fun heq =>
        hnotLeast (BitVec.eq_of_toNat_eq (heq.trans rfl))
      show (IsCanonical (1#1 ++ @unpackMantissa .binary64 bits).toNat
        ((@unpackExponent .binary64 bits).toNat - ((1023 : ℕ) + (52 : ℕ) : ℤ)) ∧
        ((@unpackExponent .binary64 bits).toNat - ((1023 : ℕ) + (52 : ℕ) : ℤ)) ≤ 971)
      rw [toNat_one_append]
      refine ⟨⟨by omega, by omega, .inl (by omega)⟩, by omega⟩

/-! ### Values -/

/-- The number that a double stands for, with `limit` for infinity. -/
def value (x : Float) : ℚ := unpackedValue x.toModel.unpack

/-- A double is a number, maybe an infinite one, and stands for the given one. -/
structure HasValue (x : Float) (v : ℚ) : Prop where
  /-- The double is a number. -/
  number : x.toModel.unpack ≠ .notANumber
  /-- It stands for the number. -/
  value : value x = v

/-- A double stands for what it is unpacked to, if that is a number. -/
theorem hasValue_of_unpack {x : Float} {u : UnpackedFloat} {v : ℚ} (h : x.toModel.unpack = u)
    (hnumber : u.isNaN = false) (hvalue : unpackedValue u = v) : HasValue x v := by
  subst h
  refine ⟨fun hnone => ?_, hvalue⟩
  rw [hnone] at hnumber
  cases hnumber

/-- The double that an unpacked one is packed into. -/
def ofUnpacked (u : UnpackedFloat) : Float := .ofModel (.pack u)

theorem unpack_ofUnpacked {u : UnpackedFloat} (h : Fits u) :
    (ofUnpacked u).toModel.unpack = u := unpack_pack h

/-- The value of a double that fits and is not infinite. -/
theorem abs_value_lt {u : UnpackedFloat} (h : Fits u) (hfinite : u.isFinite = true) :
    |unpackedValue u| < limit := by
  cases u with
  | notANumber => cases hfinite
  | infinity s => cases hfinite
  | zero s =>
    show |(0 : ℚ)| < limit
    rw [abs_zero]
    exact limit_pos
  | finite s m e hm =>
    obtain ⟨⟨hlt, -, -⟩, hle'⟩ := h
    show |signed s (m * 2 ^ e)| < limit
    rw [abs_signed, abs_of_nonneg (mul_nonneg (Nat.cast_nonneg m) (two_zpow_pos e).le)]
    exact digits_lt_limit hlt hle'

/-- A double that fits and is not infinite is rounded to itself. -/
theorem nearest_unpackedValue {u : UnpackedFloat} (h : Fits u) (hfinite : u.isFinite = true) :
    nearest (unpackedValue u) = unpackedValue u := by
  cases u with
  | notANumber => cases hfinite
  | infinity s => cases hfinite
  | zero s => exact_mod_cast nearest_natCast (by decide : 0 < 2 ^ 53)
  | finite s m e hm =>
    obtain ⟨⟨hlt, hle, -⟩, hle'⟩ := h
    show nearest (signed s (m * 2 ^ e)) = signed s (m * 2 ^ e)
    rw [nearest_signed, nearest_of_digits hlt hle hle']

/-- What a number is rounded to is packed into the double nearest to it. -/
theorem hasValue_of_isRounded {s : Sign} {x : ℚ} {u : UnpackedFloat} (hx : 0 ≤ x)
    (h : IsRounded s x u) : HasValue (ofUnpacked u) (nearest (signed s x)) := by
  rw [nearest_signed, nearest_of_nonneg hx]
  cases h with
  | zero hzero =>
    have hunpack := unpack_ofUnpacked (u := .zero s) trivial
    refine hasValue_of_unpack hunpack rfl ?_
    rw [hzero, min_eq_left limit_pos.le, signed_zero]
    rfl
  | @finite m e hm hcanonical hvalue =>
    by_cases hle : e ≤ 971
    · have hunpack := unpack_ofUnpacked (u := .finite s m e hm) ⟨hcanonical, hle⟩
      refine hasValue_of_unpack hunpack rfl ?_
      rw [hvalue, min_eq_left (digits_lt_limit hcanonical.lt hle).le]
      rfl
    · -- With a greater exponent the number is at least the limit.
      have hunpack : (ofUnpacked (.finite s m e hm)).toModel.unpack = .infinity s :=
        unpack_pack_of_great s hm (not_le.1 hle)
      have hfull : 2 ^ 52 ≤ m := hcanonical.full.resolve_right (by omega)
      have hgreat : limit ≤ m * 2 ^ e := by
        have hdigits : (2 : ℚ) ^ (52 : ℤ) ≤ m := by exact_mod_cast hfull
        calc limit = 2 ^ (52 : ℤ) * 2 ^ (972 : ℤ) := by
              rw [limit, ← zpow_add₀ two_ne_zero]
              rfl
          _ ≤ m * 2 ^ e := mul_le_mul hdigits (two_zpow_mono (by omega)) (two_zpow_pos _).le
              (Nat.cast_nonneg m)
      refine hasValue_of_unpack hunpack rfl ?_
      rw [hvalue, min_eq_right hgreat]
      rfl

end Assessment.Double
