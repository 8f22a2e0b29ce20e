import Assessment.Proofs.Number.Printing
import Assessment.Proofs.Text.Literal
import Assessment.Proofs.Value.Conformance

/-!
# Printed scalars

A scalar that was read from some text is read again from its own text, which may be a plainer one.
No text is read as a file, as a double that is not finite, as a span of time below zero or as an
address with white space around it. All other scalars are readable, words over their whole range
and identifiers of any script.

## Main definitions

- `Scalar.IsReadable`: which scalars are read from some text.

## Main results

- `Identifier.isBlank_text`: there is no white space in identifiers.
- `Scalar.read?_text`: a readable scalar is read from its own text.
- `Scalar.exists_read_iff`: the readable scalars are those that some text writes.
- `Scalar.read_text_of_read`: what was read is read again from its own text.
-/

namespace Assessment

/-! ### Identifiers -/

namespace Text

/-- Whether no range of one set meets a range of another. -/
def CodeRanges.disjoint (ranges others : CodeRanges) : Bool :=
  ranges.all fun range => others.all fun other => range.2 < other.1 || other.2 < range.1

theorem CodeRanges.not_has_of_disjoint {ranges others : CodeRanges} {code : ℕ}
    (h : ranges.disjoint others = true) (hcode : ranges.has code = true) :
    others.has code = false := by
  obtain ⟨range, hrange, hin⟩ := List.any_eq_true.1 hcode
  rw [Bool.and_eq_true, decide_eq_true_eq, decide_eq_true_eq] at hin
  rw [CodeRanges.has, List.any_eq_false]
  intro other hother
  have happart := List.all_eq_true.1 (List.all_eq_true.1 h range hrange) other hother
  rw [Bool.or_eq_true, decide_eq_true_eq, decide_eq_true_eq] at happart
  rw [Bool.and_eq_true, decide_eq_true_eq, decide_eq_true_eq]
  omega

theorem isBlank_of_isAlpha {c : Char} (h : c.isAlpha = true) : isBlank c = false := by
  have hrange : 65 ≤ c.toNat ∧ c.toNat ≤ 90 ∨ 97 ≤ c.toNat ∧ c.toNat ≤ 122 := by
    simpa [Char.isAlpha, Char.isUpper, Char.isLower, UInt32.le_iff_toNat_le] using h
  simp [isBlank, blankRanges, CodeRanges.has]
  omega

theorem disjoint_alphabetic : alphabeticRanges.disjoint blankRanges = true := by decide +kernel

theorem disjoint_numeric : numericRanges.disjoint blankRanges = true := by decide +kernel

theorem isBlank_of_isAlphanumeric {c : Char} (h : isAlphanumeric c = true) :
    isBlank c = false := by
  unfold isAlphanumeric isAlphabetic isNumeric at h
  split at h
  · obtain h | h := Bool.or_eq_true_iff.1 h
    · exact isBlank_of_isAlpha h
    · exact isBlank_of_isDigit h
  · -- Beyond ASCII the tables decide, and they share no code point.
    obtain h | h := Bool.or_eq_true_iff.1 h
    · exact CodeRanges.not_has_of_disjoint disjoint_alphabetic h
    · exact CodeRanges.not_has_of_disjoint disjoint_numeric h

end Text

/-- There is no white space in an identifier. -/
theorem Identifier.isBlank_text (name : Identifier) :
    name.text.toList ≠ [] ∧ ∀ c ∈ name.text.toList, Text.isBlank c = false := by
  have hlegal := name.legal
  unfold isLegalName at hlegal
  split at hlegal
  next => cases hlegal
  next first rest hchars =>
    rw [Bool.and_eq_true, Bool.or_eq_true, List.all_eq_true] at hlegal
    rw [hchars]
    refine ⟨List.cons_ne_nil _ _, List.forall_mem_cons.2 ⟨?_, fun c hc => ?_⟩⟩
    · obtain h | h := hlegal.1
      · exact Text.isBlank_of_isAlphanumeric (Bool.or_eq_true_iff.2 (.inl h))
      · rw [of_decide_eq_true h]
        rfl
    · have h := hlegal.2 c hc
      rw [Bool.or_eq_true, Bool.or_eq_true, Bool.or_eq_true] at h
      obtain ((h | h) | h) | h := h
      · exact Text.isBlank_of_isAlphanumeric h
      · rw [of_decide_eq_true h]
        rfl
      · rw [of_decide_eq_true h]
        rfl
      · rw [of_decide_eq_true h]
        rfl

/-! ### Integers -/

theorem writesNat_toString (n : ℕ) : WritesNat (toString n).toList n := by
  have hvalue := digitsValue_eq 0 (toString n).toList
  rw [digitsValue_toString, Nat.mul_zero, Nat.add_zero] at hvalue
  exact ⟨toString_ne_nil n, isDigit_toString, hvalue.symm⟩

/-- An integer is written by its text. -/
theorem writesSigned_toString (n : ℤ) : WritesSigned (toString n).toList n := by
  cases n with
  | ofNat n => exact .plain (writesNat_toString n)
  | negSucc n =>
    rw [Int.toString_eq_repr, Int.repr, String.toList_append]
    exact .minus (writesNat_toString n.succ)

/-! ### Scalars -/

namespace Scalar

/-- The scalars that are read from some text. -/
def IsReadable : Scalar → Prop
  | float x => x.isFinite = true
  | duration seconds => seconds.isFinite = true ∧ 0.0 ≤ seconds
  | uri address => Text.trim address = address
  | file _ => False
  | _ => True

theorem trim_floatText {x : Float} (h : x.isFinite = true) :
    Text.trim (floatText x) = floatText x := by
  refine Text.trim_eq_self fun c hc => ?_
  obtain hdigit | rfl | rfl := mem_floatText h c hc
  · exact isBlank_of_isDigit hdigit
  · rfl
  · rfl

theorem readFinite_floatText {x : Float} (h : x.isFinite = true) :
    readFinite (Text.trim (floatText x)) = some x := by
  rw [trim_floatText h, readFinite, readFloat_floatText h]
  exact Option.filter_some_pos h

theorem readInteger_toString (n : Int64) : readInteger (toString n.toInt) = some n :=
  readInteger_eq_some_iff.2 (.signed (writesSigned_toString n.toInt))

/-- The two words that a text with a space in between them is read as. -/
theorem twoWords?_append_space {first second : String}
    (hfirst : first.toList ≠ [] ∧ ∀ c ∈ first.toList, Text.isBlank c = false)
    (hsecond : second.toList ≠ [] ∧ ∀ c ∈ second.toList, Text.isBlank c = false) :
    twoWords? (Text.trim (first ++ " " ++ second)) = some (first, second) := by
  rw [twoWords?_eq_some_iff, Text.words_trim]
  exact Text.words_append_space hfirst.1 hfirst.2 hsecond.1 hsecond.2

theorem readIdentifiers_append (first second : Identifier) :
    readIdentifiers (Text.trim (first.text ++ " " ++ second.text)) = some (first, second) := by
  unfold readIdentifiers
  rw [twoWords?_append_space first.isBlank_text second.isBlank_text]
  show (Identifier.ofText? first.text).bind _ = _
  rw [Identifier.ofText?_text]
  show (Identifier.ofText? second.text).bind _ = _
  rw [Identifier.ofText?_text]
  rfl

variable {baseType : BaseType} {text : String} {scalar : Scalar}

/-- A readable scalar is read from its own text. -/
theorem read?_text (h : scalar.IsReadable) : read? scalar.baseType scalar.text = some scalar := by
  cases scalar <;> simp only [read?, baseType, Scalar.text]
  case boolean value => cases value <;> decide +kernel
  case integer value =>
    rw [Text.trim_eq_self (writesSigned_toString _).isBlank.2, readInteger_toString,
      Option.map_some]
  case float x => rw [readFinite_floatText h, Option.map_some]
  case point x y =>
    rw [twoWords?_append_space (writesSigned_toString _).isBlank (writesSigned_toString _).isBlank]
    simp only [Option.bind_eq_bind, Option.bind_some, readInteger_toString]
  case pair first second => rw [readIdentifiers_append, Option.map_some]
  case directedPair source target => rw [readIdentifiers_append, Option.map_some]
  case duration seconds =>
    rw [readFinite_floatText h.1, Option.filter_some, if_pos (decide_eq_true h.2), Option.map_some]
  case file value => exact h.elim
  case uri value => rw [show Text.trim value = value from h]
  case identifier value =>
    rw [Text.trim_eq_self value.isBlank_text.2, Identifier.ofText?_text, Option.map_some]

theorem isReadable_of_read? (h : read? baseType text = some scalar) : scalar.IsReadable := by
  obtain rfl := baseType_of_read? h
  have hfinite := isFinite_of_read? h
  cases scalar with
  | float x => exact hfinite
  | duration seconds => exact ⟨hfinite, nonneg_of_read? h⟩
  | file value => cases h
  | uri value =>
    -- What is read has been trimmed already.
    cases h
    exact Text.trim_trim text
  | _ => trivial

/-- The readable scalars are those that some text writes. -/
theorem exists_read_iff :
    (∃ text, read baseType text = .ok scalar) ↔ scalar.baseType = baseType ∧ scalar.IsReadable := by
  constructor
  · rintro ⟨text, h⟩
    rw [read_eq_ok_iff] at h
    exact ⟨baseType_of_read? h, isReadable_of_read? h⟩
  · rintro ⟨rfl, h⟩
    exact ⟨scalar.text, read_eq_ok_iff.2 (read?_text h)⟩

/-- **A scalar that was read is read again from its own text.** -/
theorem read_text_of_read (h : read baseType text = .ok scalar) :
    read baseType scalar.text = .ok scalar := by
  rw [read_eq_ok_iff] at h ⊢
  rw [← baseType_of_read? h]
  exact read?_text (isReadable_of_read? h)

theorem read_text_of_read_least :
    read .point " +1\t-9223372036854775808" = .ok (point 1 (-9223372036854775808)) ∧
      read .point (point 1 (-9223372036854775808)).text =
        .ok (point 1 (-9223372036854775808)) :=
  have h : read .point " +1\t-9223372036854775808" = .ok (point 1 (-9223372036854775808)) :=
    read_eq_ok_iff.2 (by decide +kernel)
  ⟨h, read_text_of_read h⟩

end Scalar

end Assessment
