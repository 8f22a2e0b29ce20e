import Assessment.Number.BinaryFraction
import Assessment.Proofs.Number.Comparison
import Assessment.Proofs.Number.Shortest

/-!
# Printed doubles

A finite double is one binary fraction, whose mantissa is as long as the exponent allows it to be.
No two doubles are the same one, since all bits are made of its sign, its exponent and its mantissa.

A finite double is read again from its text. The layout without an exponent is taken for the number
that was laid out, whether the decimal point stands behind, among or in front of the digits, and
this number is turned into the double that its digits were found for.

## Main definitions

- `BinaryFraction.value`: the number that a binary fraction stands for.
- `BinaryFraction.Represents`: what a double has to do with its binary fraction.

## Main results

- `BinaryFraction.represents_of_ofFloat?` and `BinaryFraction.exists_ofFloat?`: finite doubles have
  one.
- `BinaryFraction.ofFloat?_eq_some`: it is found from the number that the double stands for.
- `BinaryFraction.eq_of_ofFloat?`: no two doubles have the same one.
- `Decimal.readDecimal_positional`: what a decimal without an exponent is read as.
- `mem_floatText` and `readFloat_floatText`: the text of a finite double is read as the double.
-/

open Float.Model Float.Model.UnpackedFloat

namespace Assessment.BinaryFraction

open Rounding Double

/-- The sign of a binary fraction. -/
def sign (f : BinaryFraction) : Sign := if f.negative then .negative else .positive

/-- The number that a binary fraction stands for. -/
def value (f : BinaryFraction) : ℚ := signed f.sign (f.mantissa * 2 ^ f.exponent)

/-- A double and the binary fraction that it is. -/
structure Represents (x : Float) (f : BinaryFraction) : Prop where
  /-- The mantissa is as long as the exponent allows. -/
  canonical : IsCanonical f.mantissa f.exponent
  /-- The exponent is not too great for a double. -/
  le : f.exponent ≤ 971
  /-- Both stand for one number. -/
  hasValue : HasValue x f.value
  /-- The bits are those of the sign, the exponent and the mantissa. The first bit of a long
  mantissa adds one to the exponent. -/
  toBits : x.toBits.toNat =
    (if f.negative then 2 ^ 63 else 0) + (f.exponent + 1074).toNat * 2 ^ 52 + f.mantissa

variable {x y : Float} {f : BinaryFraction}

/-! ### Bits -/

/-- The bits of the exponent. The greatest exponent is that of infinities and of what is no
number. -/
def exponentBits (x : Float) : ℕ := x.toBits.toNat / 2 ^ 52 % 2048

/-- The bits of the mantissa, without the first one. -/
def mantissaBits (x : Float) : ℕ := x.toBits.toNat % 2 ^ 52

/-- The binary fraction that the bits of a finite double give. -/
def ofFinite (x : Float) : BinaryFraction where
  negative := x.toBits.toNat / 2 ^ 63 = 1
  mantissa := mantissaBits x + if exponentBits x = 0 then 0 else 2 ^ 52
  exponent := max (exponentBits x : ℤ) 1 - 1075

theorem ofFloat?_eq (x : Float) :
    ofFloat? x = if exponentBits x = 2047 then none else some (ofFinite x) := by
  show (if exponentBits x = 2047 then none
    else if exponentBits x = 0 then
      some (⟨x.toBits.toNat / 2 ^ 63 = 1, mantissaBits x, -1074⟩ : BinaryFraction)
    else some ⟨x.toBits.toNat / 2 ^ 63 = 1, mantissaBits x + 2 ^ 52, exponentBits x - 1075⟩) = _
  unfold ofFinite
  split_ifs with hgreatest hleast
  · rfl
  · rw [hleast]
    rfl
  · rw [max_eq_left (by omega)]

theorem toNat_exponent (x : Float) :
    (@unpackExponent .binary64 x.toBits.toBitVec).toNat = exponentBits x :=
  toNat_unpackExponent _

theorem toNat_mantissa (x : Float) :
    (@unpackMantissa .binary64 x.toBits.toBitVec).toNat = mantissaBits x :=
  toNat_unpackMantissa _

theorem sign_unpack (x : Float) :
    Sign.ofBitVec (@unpackSign .binary64 x.toBits.toBitVec) = (ofFinite x).sign := by
  have hsign : (@unpackSign .binary64 x.toBits.toBitVec).toNat = x.toBits.toNat / 2 ^ 63 :=
    toNat_unpackSign _
  have hlt := (@unpackSign .binary64 x.toBits.toBitVec).isLt
  show _ = if decide (x.toBits.toNat / 2 ^ 63 = 1) = true then Sign.negative else .positive
  rw [← hsign]
  generalize @unpackSign .binary64 x.toBits.toBitVec = bit at hlt
  have hbit : bit = 0#1 ∨ bit = 1#1 := by
    have : bit.toNat = 0 ∨ bit.toNat = 1 := by omega
    exact this.imp (fun h => BitVec.eq_of_toNat_eq h) fun h => BitVec.eq_of_toNat_eq h
  obtain rfl | rfl := hbit <;> rfl

theorem unpackExponent_eq_iff (x : Float) (k : BitVec 11) :
    @unpackExponent .binary64 x.toBits.toBitVec = k ↔ exponentBits x = k.toNat := by
  rw [← toNat_exponent]
  exact BitVec.toNat_inj.symm

theorem value_ofFinite_of_least (h : exponentBits x = 0) :
    (ofFinite x).value = signed (ofFinite x).sign (mantissaBits x * 2 ^ (-1074 : ℤ)) := by
  simp [value, ofFinite, h]

theorem value_ofFinite_of_not_least (h : exponentBits x ≠ 0) :
    (ofFinite x).value = signed (ofFinite x).sign
      ((2 ^ 52 + mantissaBits x : ℕ) * 2 ^ (exponentBits x - 1075 : ℤ)) := by
  have hmax : max (exponentBits x : ℤ) 1 = exponentBits x := max_eq_left (by omega)
  simp [value, ofFinite, h, hmax, add_comm]

/-- The number of a double without the greatest exponent. -/
theorem hasValue_ofFinite (h : exponentBits x ≠ 2047) : HasValue x (ofFinite x).value := by
  suffices hunpack : UnpackedFloat.unpack .binary64 x.toBits.toBitVec ≠ .notANumber ∧
      unpackedValue (UnpackedFloat.unpack .binary64 x.toBits.toBitVec) = (ofFinite x).value from
    ⟨hunpack.1, hunpack.2⟩
  have hmantissa := toNat_mantissa x
  have hgreatest : ¬@unpackExponent .binary64 x.toBits.toBitVec = -1#11 := by
    rwa [unpackExponent_eq_iff]
  rw [UnpackedFloat.unpack, sign_unpack]
  dsimp only
  rw [if_neg hgreatest]
  split
  next hleast =>
    rw [value_ofFinite_of_least ((unpackExponent_eq_iff x _).1 hleast), ← hmantissa, hleast]
    split
    next hzero =>
      -- A zero is unpacked without an exponent.
      refine ⟨nofun, ?_⟩
      rw [hzero, BitVec.toNat_zero, Nat.cast_zero, zero_mul, signed_zero]
      rfl
    next => exact ⟨nofun, rfl⟩
  next hleast =>
    rw [value_ofFinite_of_not_least (mt (unpackExponent_eq_iff x 0#11).2 hleast), ← hmantissa,
      ← toNat_one_append, ← toNat_exponent]
    exact ⟨nofun, rfl⟩

/-- A double without the greatest exponent is what its bits say. -/
theorem represents_ofFinite (h : exponentBits x ≠ 2047) : Represents x (ofFinite x) := by
  have hexponent : exponentBits x < 2048 := Nat.mod_lt _ (by decide)
  have hmantissa : mantissaBits x < 2 ^ 52 := Nat.mod_lt _ (by decide)
  refine ⟨⟨?_, ?_, ?_⟩, ?_, hasValue_ofFinite h, ?_⟩
  · show mantissaBits x + (if exponentBits x = 0 then 0 else 2 ^ 52) < 2 ^ 53
    split_ifs <;> omega
  · show -1074 ≤ max (exponentBits x : ℤ) 1 - 1075
    omega
  · show 2 ^ 52 ≤ mantissaBits x + (if exponentBits x = 0 then 0 else 2 ^ 52) ∨
      max (exponentBits x : ℤ) 1 - 1075 = -1074
    split_ifs <;> omega
  · show max (exponentBits x : ℤ) 1 - 1075 ≤ 971
    omega
  · show x.toBits.toNat = (if decide (x.toBits.toNat / 2 ^ 63 = 1) = true then 2 ^ 63 else 0) +
      (max (exponentBits x : ℤ) 1 - 1075 + 1074).toNat * 2 ^ 52 +
      (mantissaBits x + if exponentBits x = 0 then 0 else 2 ^ 52)
    have hlt : x.toBits.toNat < 2 ^ 64 := x.toBits.toNat_lt
    -- The two least exponents that are written stand for the same power of two.
    have hunbiased : (max (exponentBits x : ℤ) 1 - 1075 + 1074).toNat = exponentBits x - 1 := by
      omega
    rw [hunbiased]
    simp only [decide_eq_true_eq]
    unfold exponentBits mantissaBits at *
    split_ifs <;> omega

theorem represents_of_ofFloat? (h : ofFloat? x = some f) : Represents x f := by
  rw [ofFloat?_eq] at h
  split_ifs at h with hgreatest
  cases h
  exact represents_ofFinite hgreatest

/-- Finite doubles are binary fractions. -/
theorem exists_ofFloat? (h : x.isFinite = true) : ∃ f, ofFloat? x = some f := by
  rw [ofFloat?_eq]
  split_ifs with hgreatest
  · replace h : (UnpackedFloat.unpack .binary64 x.toBits.toBitVec).isFinite = true := h
    rw [UnpackedFloat.unpack] at h
    dsimp only at h
    rw [if_pos ((unpackExponent_eq_iff x (-1#11)).2 hgreatest)] at h
    split at h <;> cases h
  · exact ⟨_, rfl⟩

/-- No two doubles are one binary fraction. -/
theorem eq_of_ofFloat? (hx : ofFloat? x = some f) (hy : ofFloat? y = some f) : x = y := by
  have hbits : x.toBits.toNat = y.toBits.toNat :=
    (represents_of_ofFloat? hx).toBits.trans (represents_of_ofFloat? hy).toBits.symm
  obtain ⟨x⟩ := x
  obtain ⟨y⟩ := y
  obtain ⟨xbits, hxvalid⟩ := x
  obtain ⟨ybits, hyvalid⟩ := y
  obtain rfl : xbits = ybits := UInt64.toNat_inj.1 hbits
  rfl

/-- The mantissa and the exponent are found from the size of the number. -/
theorem eq_of_mul_two_zpow_eq {m n : ℕ} {e d : ℤ} (hm : IsCanonical m e) (hn : IsCanonical n d)
    (h : (m : ℚ) * 2 ^ e = n * 2 ^ d) : m = n ∧ e = d := by
  have hcompare := compare_mul_two_zpow hm hn
  rw [h, compare_eq_iff_eq.2 rfl, Ordering.then_eq_eq, compare_eq_iff_eq, compare_eq_iff_eq]
    at hcompare
  exact hcompare.symm

theorem eq_of_signed_eq {s t : Sign} {a b : ℚ} (ha : 0 ≤ a) (hb : 0 < b)
    (h : signed s a = signed t b) : s = t ∧ a = b := by
  cases s <;> cases t <;> dsimp only [signed] at h
  · exact ⟨rfl, neg_inj.1 h⟩
  · linarith
  · linarith
  · exact ⟨rfl, h⟩

theorem sign_inj {f g : BinaryFraction} : f.sign = g.sign ↔ f.negative = g.negative := by
  unfold sign
  cases f.negative <;> cases g.negative <;> simp

/-- The binary fraction of a double is found from the number that the double stands for. -/
theorem ofFloat?_eq_some (hm : 0 < f.mantissa) (hcanonical : IsCanonical f.mantissa f.exponent)
    (hle : f.exponent ≤ 971) (h : HasValue x f.value) : ofFloat? x = some f := by
  have hnonneg (g : BinaryFraction) : (0 : ℚ) ≤ g.mantissa * 2 ^ g.exponent :=
    mul_nonneg (Nat.cast_nonneg _) (two_zpow_pos _).le
  have hfinite : x.isFinite = true := by
    rw [h.isFinite_iff, value, abs_signed, abs_of_nonneg (hnonneg f)]
    exact digits_lt_limit hcanonical.lt hle
  -- The double has some binary fraction, of which the number leaves no choice.
  obtain ⟨g, hg⟩ := exists_ofFloat? hfinite
  have hrepresents := represents_of_ofFloat? hg
  obtain ⟨hsign, hsize⟩ := eq_of_signed_eq (hnonneg g)
    (mul_pos (Nat.cast_pos.2 hm) (two_zpow_pos _)) (hrepresents.hasValue.value.symm.trans h.value)
  obtain ⟨hmantissa, hexponent⟩ := eq_of_mul_two_zpow_eq hrepresents.canonical hcanonical hsize
  rw [sign_inj] at hsign
  rw [hg]
  cases f
  cases g
  cases hsign
  cases hmantissa
  cases hexponent
  rfl

end Assessment.BinaryFraction

namespace Assessment

/-! ### Digits -/

theorem digitsValue_append (start : ℕ) (front back : List Char) :
    digitsValue start (front ++ back) = digitsValue (digitsValue start front) back :=
  List.foldl_append

theorem toList_toString (n : ℕ) : (toString n).toList = Nat.toDigits 10 n := Nat.toList_repr

theorem isDigit_toString {n : ℕ} : ∀ c ∈ (toString n).toList, c.isDigit = true := fun c hc =>
  Nat.isDigit_of_mem_toDigits (by decide) (by decide) (toList_toString n ▸ hc)

theorem toString_ne_nil (n : ℕ) : (toString n).toList ≠ [] := by
  rw [toList_toString]
  exact Nat.toDigits_ne_nil

/-- Digits are read as the number that they were written for. -/
theorem digitsValue_toString (n : ℕ) : digitsValue 0 (toString n).toList = n := by
  rw [toList_toString]
  exact Nat.ofDigitChars_ten_toDigits

theorem digitsValue_replicate (start count : ℕ) :
    digitsValue start (List.replicate count '0') = 10 ^ count * start :=
  Nat.ofDigitChars_replicate_zero

theorem isDigit_replicate {count : ℕ} : ∀ c ∈ List.replicate count '0', c.isDigit = true :=
  fun c hc => by rw [List.eq_of_mem_replicate hc]; rfl

/-! ### Decimals without an exponent -/

/-- The digits in front of something else. -/
theorem takeWhile_isDigit {digits : List Char} (rest : List Char)
    (hdigits : ∀ c ∈ digits, c.isDigit = true) (hrest : ∀ c ∈ rest.head?, c.isDigit = false) :
    (digits ++ rest).takeWhile Char.isDigit = digits ∧
      (digits ++ rest).dropWhile Char.isDigit = rest := by
  rw [List.takeWhile_append_of_pos hdigits, List.dropWhile_append_of_pos hdigits]
  cases rest with
  | nil => exact ⟨List.append_nil _, rfl⟩
  | cons c rest =>
    have hc : ¬c.isDigit = true := Bool.eq_false_iff.1 (hrest c rfl)
    rw [List.takeWhile_cons_of_neg hc, List.dropWhile_cons_of_neg hc, List.append_nil]
    exact ⟨rfl, rfl⟩

/-- Digits alone are a whole number. -/
theorem readDecimal_whole {digits : List Char} (hne : digits ≠ [])
    (hdigits : ∀ c ∈ digits, c.isDigit = true) :
    readDecimal digits = some (decimalFloat (digitsValue 0 digits) 0) := by
  obtain ⟨htake, hdrop⟩ := takeWhile_isDigit [] hdigits nofun
  rw [List.append_nil] at htake hdrop
  unfold readDecimal
  rw [htake, hdrop]
  dsimp only
  rw [List.isEmpty_eq_false_iff.2 hne]
  rfl

/-- Behind the decimal point each digit is one place. -/
theorem readDecimal_point {whole places : List Char} (hne : whole ≠ [])
    (hwhole : ∀ c ∈ whole, c.isDigit = true) (hplaces : ∀ c ∈ places, c.isDigit = true) :
    readDecimal (whole ++ '.' :: places) =
      some (decimalFloat (digitsValue 0 (whole ++ places)) (-places.length)) := by
  obtain ⟨htake, hdrop⟩ := takeWhile_isDigit ('.' :: places) hwhole (by simp)
  obtain ⟨htake', hdrop'⟩ := takeWhile_isDigit [] hplaces nofun
  rw [List.append_nil] at htake' hdrop'
  unfold readDecimal
  simp only [htake, hdrop, htake', hdrop']
  rw [List.isEmpty_eq_false_iff.2 hne, digitsValue_append]
  show some (decimalFloat _ (0 - places.length : ℤ)) = _
  rw [zero_sub]

namespace Decimal

theorem toList_zeros (count : ℕ) : (zeros count).toList = List.replicate count '0' :=
  String.toList_ofList

theorem toList_withPoint (digits : List Char) (point : ℕ) :
    (withPoint digits point).toList = digits.take point ++ '.' :: digits.drop point := by
  simp [withPoint]

/-- Without places there is no point. -/
theorem toList_positional_whole {x : Decimal} (h : 0 ≤ x.exponent) :
    x.positional.toList = (toString x.digits).toList ++ List.replicate x.exponent.toNat '0' := by
  unfold positional
  dsimp only
  rw [if_pos h, String.toList_append, String.toList_ofList, toList_zeros]

/-- With places there are as many of them as the exponent tells, and all digits are there. -/
theorem toList_positional_point {x : Decimal} (h : x.exponent < 0) :
    ∃ whole places, x.positional.toList = whole ++ '.' :: places ∧ whole ≠ [] ∧
      (∀ c ∈ whole ++ places, c.isDigit = true) ∧ digitsValue 0 (whole ++ places) = x.digits ∧
      (places.length : ℤ) = -x.exponent := by
  have hdigits : ∀ c ∈ (toString x.digits).toList, c.isDigit = true := isDigit_toString
  have hvalue := digitsValue_toString x.digits
  unfold positional
  dsimp only
  generalize (toString x.digits).toList = digits at hdigits hvalue
  rw [if_neg (by omega)]
  split_ifs with hpoint
  · -- The point stands among the digits.
    refine ⟨digits.take (x.exponent + digits.length).toNat,
      digits.drop (x.exponent + digits.length).toNat, toList_withPoint _ _, ?_, ?_, ?_, ?_⟩
    · intro hnone
      have hlength := congrArg List.length hnone
      rw [List.length_take, List.length_nil] at hlength
      omega
    · rwa [List.take_append_drop]
    · rwa [List.take_append_drop]
    · rw [List.length_drop]
      omega
  · -- Zeros stand between the point and the digits.
    refine ⟨['0'], List.replicate (-(x.exponent + digits.length)).toNat '0' ++ digits, ?_,
      List.cons_ne_nil _ _, ?_, ?_, ?_⟩
    · simp [toList_zeros]
    · exact List.forall_mem_append.2
        ⟨by simp, List.forall_mem_append.2 ⟨isDigit_replicate, hdigits⟩⟩
    · rw [digitsValue_append, digitsValue_append]
      show digitsValue (digitsValue 0 (List.replicate _ '0')) digits = x.digits
      rw [digitsValue_replicate, mul_zero, hvalue]
    · rw [List.length_append, List.length_replicate]
      omega

/-- A decimal without an exponent is read as the number that was laid out. -/
theorem readDecimal_positional (x : Decimal) :
    readDecimal x.positional.toList =
      some (decimalFloat (x.digits * 10 ^ x.exponent.toNat) (min x.exponent 0)) := by
  obtain h | h := le_or_gt 0 x.exponent
  · rw [toList_positional_whole h, readDecimal_whole (by simp)
      (List.forall_mem_append.2 ⟨isDigit_toString, isDigit_replicate⟩), digitsValue_append,
      digitsValue_toString, digitsValue_replicate, mul_comm, min_eq_right h]
  · obtain ⟨whole, places, htext, hne, hdigits, hvalue, hlength⟩ := toList_positional_point h
    obtain ⟨hwhole, hplaces⟩ := List.forall_mem_append.1 hdigits
    rw [htext, readDecimal_point hne hwhole hplaces, hvalue, hlength, neg_neg, min_eq_left h.le,
      Int.toNat_of_nonpos h.le, pow_zero, mul_one]

/-- There are digits in it, and at most a point. -/
theorem mem_positional (x : Decimal) :
    ∀ c ∈ x.positional.toList, c.isDigit = true ∨ c = '.' := by
  obtain h | h := le_or_gt 0 x.exponent
  · rw [toList_positional_whole h]
    exact fun c hc => .inl
      (List.forall_mem_append.2 ⟨isDigit_toString, isDigit_replicate⟩ c hc)
  · obtain ⟨whole, places, htext, -, hdigits, -⟩ := toList_positional_point h
    obtain ⟨hwhole, hplaces⟩ := List.forall_mem_append.1 hdigits
    rw [htext]
    exact List.forall_mem_append.2 ⟨fun c hc => .inl (hwhole c hc),
      List.forall_mem_cons.2 ⟨.inr rfl, fun c hc => .inl (hplaces c hc)⟩⟩

end Decimal

/-! ### Doubles -/

open Rounding Double BinaryFraction

theorem toLower_of_isDigit {c : Char} (h : c.isDigit = true ∨ c = '.') : c.toLower = c := by
  obtain h | rfl := h
  · have hrange : 48 ≤ c.toNat ∧ c.toNat ≤ 57 := by
      simpa [Char.isDigit, UInt32.le_iff_toNat_le] using h
    unfold Char.toLower
    rw [dif_neg]
    rw [ge_iff_le, UInt32.le_iff_toNat_le]
    exact fun hletter => absurd (hletter.1.trans hrange.2) (by decide)
  · rfl

/-- The words that doubles are written by have a letter. -/
theorem map_toLower_ne {chars : List Char} {word : String}
    (hchars : ∀ c ∈ chars, c.isDigit = true ∨ c = '.') (hword : 'n' ∈ word.toList) :
    String.ofList (chars.map Char.toLower) ≠ word := by
  rintro rfl
  rw [String.toList_ofList] at hword
  obtain ⟨c, hc, hlower⟩ := List.mem_map.1 hword
  rw [toLower_of_isDigit (hchars c hc)] at hlower
  subst hlower
  simpa using hchars 'n' hc

/-- Digits and points are not taken for a sign or for a word. -/
theorem readFloat_unsigned {text : String}
    (htext : ∀ c ∈ text.toList, c.isDigit = true ∨ c = '.') :
    readFloat text = readDecimal text.toList ∧
      readFloat ("-" ++ text) = (readDecimal text.toList).map (-·) := by
  have hplain : splitSign text.toList = (false, text.toList) := by
    unfold splitSign
    split
    next hsign => simpa using htext '-' (hsign ▸ List.mem_cons_self)
    next hsign => simpa using htext '+' (hsign ▸ List.mem_cons_self)
    next => rfl
  have hminus : splitSign ("-" ++ text).toList = (true, text.toList) := by
    rw [String.toList_append]
    rfl
  unfold readFloat
  rw [hplain, hminus]
  dsimp only
  rw [if_neg (not_or.2 ⟨map_toLower_ne htext (by decide), map_toLower_ne htext (by decide)⟩),
    if_neg (map_toLower_ne htext (by decide))]
  exact ⟨Option.map_id', rfl⟩

/-- Where the places end up, the number is the same one. -/
theorem shift_exponent (n : ℕ) (e : ℤ) :
    ((n * 10 ^ e.toNat : ℕ) : ℚ) * 10 ^ min e 0 = n * 10 ^ e := by
  push_cast
  rw [mul_assoc, ← zpow_natCast, ← zpow_add₀ (by norm_num)]
  congr 2
  omega

theorem ofFloat?_zero : ofFloat? 0.0 = some ⟨false, 0, -1074⟩ := rfl

theorem ofFloat?_neg_zero : ofFloat? (-0.0) = some ⟨true, 0, -1074⟩ := rfl

/-- The text of a size is read as the double of that size, without a sign. -/
theorem readDecimal_size {m : ℕ} {e : ℤ} (hcanonical : IsCanonical m e) (hle : e ≤ 971) :
    let text := if m = 0 then "0" else (Decimal.shortest .up m e).positional
    (∀ c ∈ text.toList, c.isDigit = true ∨ c = '.') ∧ ∃ y, readDecimal text.toList = some y ∧
      ofFloat? y = some ⟨false, m, e⟩ ∧ ofFloat? (-y) = some ⟨true, m, e⟩ := by
  dsimp only
  split_ifs with hzero
  · -- Zero has no shortest decimal, and there are two of them, with one exponent.
    obtain rfl : e = -1074 := hcanonical.full.resolve_left (by omega)
    subst hzero
    have hdigits : ∀ c ∈ ['0'], c.isDigit = true := List.forall_mem_singleton.2 rfl
    have hread : readDecimal ['0'] = some 0.0 := readDecimal_whole (List.cons_ne_nil _ _) hdigits
    rw [show "0".toList = ['0'] by rfl]
    exact ⟨fun c hc => .inl (hdigits c hc), 0.0, hread, ofFloat?_zero, ofFloat?_neg_zero⟩
  · have hm : 0 < m := Nat.pos_of_ne_zero hzero
    have hvalue := hasValue_shortest hm hcanonical hle .up (shift_exponent _ _)
    exact ⟨Decimal.mem_positional _, _, Decimal.readDecimal_positional _,
      ofFloat?_eq_some hm hcanonical hle hvalue,
      ofFloat?_eq_some hm hcanonical hle hvalue.neg⟩

/-- There are digits in the text of a finite double, and maybe a point and a minus sign. -/
theorem mem_floatText {x : Float} (h : x.isFinite = true) :
    ∀ c ∈ (floatText x).toList, c.isDigit = true ∨ c = '.' ∨ c = '-' := by
  obtain ⟨f, hf⟩ := exists_ofFloat? h
  have hrepresents := represents_of_ofFloat? hf
  have hchars := (readDecimal_size hrepresents.canonical hrepresents.le).1
  unfold floatText
  rw [hf]
  dsimp only at hchars ⊢
  cases f.negative with
  | false => exact fun c hc => (hchars c hc).imp_right .inl
  | true =>
    rw [if_pos rfl, String.toList_append]
    exact List.forall_mem_cons.2 ⟨.inr (.inr rfl), fun c hc => (hchars c hc).imp_right .inl⟩

/-- A finite double is read again from its text. -/
theorem readFloat_floatText {x : Float} (h : x.isFinite = true) :
    readFloat (floatText x) = some x := by
  obtain ⟨f, hf⟩ := exists_ofFloat? h
  have hrepresents := represents_of_ofFloat? hf
  obtain ⟨hchars, y, hread, hplus, hminus⟩ :=
    readDecimal_size hrepresents.canonical hrepresents.le
  obtain ⟨hunsigned, hsigned⟩ := readFloat_unsigned hchars
  unfold floatText
  rw [hf]
  dsimp only
  cases hnegative : f.negative with
  | false =>
    rw [if_neg (by decide), hunsigned, hread]
    exact congrArg some (eq_of_ofFloat? hplus (by rw [hf, ← hnegative]))
  | true =>
    rw [if_pos rfl, hsigned, hread]
    exact congrArg some (eq_of_ofFloat? hminus (by rw [hf, ← hnegative]))

end Assessment
