import Mathlib.Data.List.DropRight
import Mathlib.Data.Nat.Digits.Defs
import Assessment.Text.Blank
import Assessment.Value.Response

/-!
# Words and literals in texts

What trimming takes from a text and what splitting makes of it, said without the ways in which they
go over the characters.

An integer is written by decimal digits with at most one sign in front. The reading of integers
takes all of these texts for the integers that they write, as long as these are words, and it takes
a few more: a plus sign may stand in front of a text that has a sign already.

## Main definitions

- `Text.Wraps`: a text is another one with white space around it.
- `Text.Splits`: a text consists of words and the white space before, between and behind them.
- `WritesNat` and `WritesSigned`: digits, and digits with at most one sign, write a number.
- `WritesInteger`: what is read, with another plus sign in front or without one.

## Main results

- `Text.wraps_trim`, `Text.trim_eq_of_wraps` and `Text.trim_trim`: what trimming leaves.
- `Text.words_eq_iff`: the words of a text are those that it consists of.
- `Text.words_trim`: trimming takes no words.
- `readSigned_eq_some_iff` and `readInteger_eq_some_iff`: what the readings take.
- `Scalar.read_integer_point_iff`: which texts are read as integers and as points.
-/

namespace Assessment

namespace Text

/-! ### Trimming -/

/-- A text is another one with white space around it. -/
def Wraps (text inner : String) : Prop :=
  ∃ before after : List Char, (∀ c ∈ before, isBlank c = true) ∧ (∀ c ∈ after, isBlank c = true) ∧
    text.toList = before ++ (inner.toList ++ after)

variable {text inner : String}

theorem wraps_trim (text : String) : Wraps text (trim text) := by
  let before := text.toList.takeWhile isBlank
  let rest := text.toList.dropWhile isBlank
  let after := (rest.reverse.takeWhile isBlank).reverse
  refine ⟨before, after, fun c hc => List.mem_takeWhile_imp hc,
    fun c hc => List.mem_takeWhile_imp (List.mem_reverse.1 hc), ?_⟩
  calc text.toList
    _ = before ++ rest := List.takeWhile_append_dropWhile.symm
    -- The end is trimmed as the beginning of the reversed text.
    _ = before ++ ((rest.reverse.dropWhile isBlank).reverse ++ after) := by
      rw [← List.reverse_append, List.takeWhile_append_dropWhile (l := rest.reverse),
        List.reverse_reverse]
    _ = before ++ ((trim text).toList ++ after) := by rw [trim, String.toList_ofList]

/-- White space in front of characters that are none is dropped up to the first of these. -/
theorem dropWhile_isBlank_append {before chars : List Char}
    (hbefore : ∀ c ∈ before, isBlank c = true) (hchars : ∀ c ∈ chars.head?, isBlank c = false) :
    (before ++ chars).dropWhile isBlank = chars := by
  rw [List.dropWhile_append_of_pos hbefore]
  cases chars with
  | nil => rfl
  | cons c rest => rw [List.dropWhile_cons_of_neg (by simp [hchars c rfl])]

/-- Of a text without white space that stands in white space, trimming leaves just that. -/
theorem trim_eq_of_wraps (h : Wraps text inner) (hne : inner.toList ≠ [])
    (hinner : ∀ c ∈ inner.toList, isBlank c = false) : trim text = inner := by
  obtain ⟨before, after, hbefore, hafter, htext⟩ := h
  have hfront : ∀ c ∈ (inner.toList ++ after).head?, isBlank c = false := by
    obtain ⟨first, rest, hchars⟩ := List.exists_cons_of_ne_nil hne
    rw [hchars] at hinner ⊢
    rintro _ ⟨⟩
    exact hinner first List.mem_cons_self
  have hback : ∀ c ∈ inner.toList.reverse.head?, isBlank c = false := fun c hc =>
    hinner c (List.mem_reverse.1 (List.mem_of_mem_head? hc))
  have hafter : ∀ c ∈ after.reverse, isBlank c = true := fun c hc =>
    hafter c (List.mem_reverse.1 hc)
  calc trim text
    _ = String.ofList ((inner.toList ++ after).reverse.dropWhile isBlank).reverse := by
      rw [trim, htext, dropWhile_isBlank_append hbefore hfront]
    _ = String.ofList inner.toList := by
      rw [List.reverse_append, dropWhile_isBlank_append hafter hback, List.reverse_reverse]
    _ = inner := String.ofList_toList

/-- A text without white space is left as it is. -/
theorem trim_eq_self (h : ∀ c ∈ text.toList, isBlank c = false) : trim text = text := by
  by_cases hne : text.toList = []
  · rw [trim, hne]
    exact String.toList_inj.1 (String.toList_ofList.trans hne.symm)
  · exact trim_eq_of_wraps ⟨[], [], nofun, nofun, by simp⟩ hne h

/-- Trimming leaves nothing that another trimming would take. -/
theorem trim_trim (text : String) : trim (trim text) = trim text := by
  let rest := text.toList.dropWhile isBlank
  have hfront : (rest.rdropWhile isBlank).dropWhile isBlank = rest.rdropWhile isBlank := by
    rw [List.dropWhile_eq_self_iff]
    intro hne
    -- What comes first has been first before the end was trimmed.
    rw [(List.rdropWhile_prefix isBlank rest).getElem hne]
    exact List.dropWhile_get_zero_not _ _ _
  have htrim : (trim text).toList = rest.rdropWhile isBlank := String.toList_ofList
  calc trim (trim text)
    _ = String.ofList (((rest.rdropWhile isBlank).dropWhile isBlank).rdropWhile isBlank) := by
      rw [trim, htrim]
      rfl
    _ = String.ofList (rest.rdropWhile isBlank) := by rw [hfront, List.rdropWhile_idempotent]
    _ = trim text := rfl

/-! ### Splitting -/

/-- A text consists of words and of the white space before, between and behind them. -/
inductive Splits : List Char → List String → Prop
  /-- White space alone holds no word. -/
  | blank {chars : List Char} (hchars : ∀ c ∈ chars, isBlank c = true) : Splits chars []
  /-- White space, a word up to the end or to more white space, and the words behind it. -/
  | word {before word rest : List Char} {words : List String}
      (hbefore : ∀ c ∈ before, isBlank c = true) (hne : word ≠ [])
      (hword : ∀ c ∈ word, isBlank c = false) (hend : ∀ c ∈ rest.head?, isBlank c = true)
      (hrest : Splits rest words) :
      Splits (before ++ (word ++ rest)) (String.ofList word :: words)

namespace Splits

variable {chars : List Char} {words : List String}

theorem blank_append (h : Splits chars words) {before : List Char}
    (hbefore : ∀ c ∈ before, isBlank c = true) : Splits (before ++ chars) words := by
  cases h with
  | blank hchars => exact .blank (List.forall_mem_append.2 ⟨hbefore, hchars⟩)
  | word hmore hne hword hend hrest =>
    rw [← List.append_assoc]
    exact .word (List.forall_mem_append.2 ⟨hbefore, hmore⟩) hne hword hend hrest

theorem append_blank (h : Splits chars words) {after : List Char}
    (hafter : ∀ c ∈ after, isBlank c = true) : Splits (chars ++ after) words := by
  induction h with
  | blank hchars => exact .blank (List.forall_mem_append.2 ⟨hchars, hafter⟩)
  | @word before word rest words hbefore hne hword hend hrest ih =>
    rw [List.append_assoc, List.append_assoc]
    refine .word hbefore hne hword ?_ ih
    -- Only the last word has the new white space right behind it.
    cases rest with
    | nil => exact fun c hc => hafter c (List.mem_of_mem_head? hc)
    | cons _ _ => exact hend

end Splits

/-- A word that stands in front, with what is left behind it. -/
theorem Splits.word_append {word rest : List Char} {words : List String} (hne : word ≠ [])
    (hword : ∀ c ∈ word, isBlank c = false) (hend : ∀ c ∈ rest.head?, isBlank c = true)
    (hrest : Splits rest words) : Splits (word ++ rest) (String.ofList word :: words) :=
  .word (List.forall_mem_nil _) hne hword hend hrest

/-- The characters that were read, and those still to come, consist of the words that are found. -/
theorem splits_wordsFrom {word : List Char} (hword : ∀ c ∈ word, isBlank c = false)
    (chars : List Char) : Splits (word.reverse ++ chars) (wordsFrom word chars) := by
  have hread : ∀ c ∈ word.reverse, isBlank c = false := fun c hc => hword c (List.mem_reverse.1 hc)
  induction chars generalizing word with
  | nil =>
    cases word with
    | nil => exact .blank (List.forall_mem_nil _)
    | cons last read =>
      exact .word_append (by simp) hread nofun (.blank (List.forall_mem_nil _))
  | cons c rest ih =>
    rw [wordsFrom]
    cases hc : isBlank c with
    | false =>
      have hmore : ∀ d ∈ c :: word, isBlank d = false := List.forall_mem_cons.2 ⟨hc, hword⟩
      have hsplits := ih hmore fun d hd => hmore d (List.mem_reverse.1 hd)
      rwa [List.reverse_cons, List.append_assoc] at hsplits
    | true =>
      -- The word that was read ends here, if there is one.
      have hrest : Splits (c :: rest) (wordsFrom [] rest) :=
        (ih (List.forall_mem_nil _) (List.forall_mem_nil _)).blank_append
          (List.forall_mem_singleton.2 hc)
      cases word with
      | nil => exact hrest
      | cons last read =>
        refine .word_append (by simp) hread ?_ hrest
        rintro _ ⟨⟩
        exact hc

/-- White space in front of words is passed over. -/
theorem wordsFrom_blank_append {before : List Char} (hbefore : ∀ c ∈ before, isBlank c = true)
    (chars : List Char) : wordsFrom [] (before ++ chars) = wordsFrom [] chars := by
  induction before with
  | nil => rfl
  | cons c rest ih =>
    obtain ⟨hc, hrest⟩ := List.forall_mem_cons.1 hbefore
    rw [List.cons_append, wordsFrom, if_pos hc]
    exact ih hrest

/-- The characters of a word are read one by one. -/
theorem wordsFrom_append {word : List Char} (hword : ∀ c ∈ word, isBlank c = false)
    (read chars : List Char) :
    wordsFrom read (word ++ chars) = wordsFrom (word.reverse ++ read) chars := by
  induction word generalizing read with
  | nil => rfl
  | cons c rest ih =>
    obtain ⟨hc, hrest⟩ := List.forall_mem_cons.1 hword
    rw [List.cons_append, wordsFrom, if_neg (by simp [hc]), ih hrest, List.reverse_cons,
      List.append_assoc]
    rfl

/-- There is one way to split a text. -/
theorem Splits.wordsFrom_eq {chars : List Char} {words : List String} (h : Splits chars words) :
    wordsFrom [] chars = words := by
  induction h with
  | @blank chars hchars =>
    have hall := wordsFrom_blank_append hchars []
    rwa [List.append_nil] at hall
  | @word before word rest words hbefore hne hword hend hrest ih =>
    rw [wordsFrom_blank_append hbefore, wordsFrom_append hword, List.append_nil]
    have hread : word.reverse.isEmpty = false := by simpa using hne
    -- A word ends at the end of the text, or at white space, which is not read again.
    cases rest with
    | nil =>
      rw [wordsFrom, hread, List.reverse_reverse, ← ih]
      rfl
    | cons c rest =>
      have hc : isBlank c = true := hend c rfl
      rw [wordsFrom, if_pos hc] at ih
      rw [wordsFrom, if_pos hc, hread, List.reverse_reverse, ← ih]
      rfl

/-- The words of a text are those that it consists of. -/
theorem words_eq_iff {words : List String} :
    Text.words text = words ↔ Splits text.toList words := by
  refine ⟨?_, Splits.wordsFrom_eq⟩
  rintro rfl
  exact splits_wordsFrom (List.forall_mem_nil _) text.toList

/-- Two words with a space between them. -/
theorem words_append_space {first second : String} (hfirst : first.toList ≠ [])
    (hfirst' : ∀ c ∈ first.toList, isBlank c = false) (hsecond : second.toList ≠ [])
    (hsecond' : ∀ c ∈ second.toList, isBlank c = false) :
    words (first ++ " " ++ second) = [first, second] := by
  have hlast : Splits second.toList [second] := by
    have hsplits : Splits (second.toList ++ []) [String.ofList second.toList] :=
      .word_append hsecond hsecond' nofun (.blank nofun)
    rwa [List.append_nil, String.ofList_toList] at hsplits
  have hspace : ∀ c ∈ [' '], isBlank c = true := List.forall_mem_singleton.2 rfl
  have hsplits : Splits (first.toList ++ ([' '] ++ second.toList))
      [String.ofList first.toList, second] :=
    .word_append hfirst hfirst' (by rintro _ ⟨⟩; rfl) (hlast.blank_append hspace)
  rw [words_eq_iff, String.toList_append, String.toList_append, List.append_assoc]
  rwa [String.ofList_toList] at hsplits

/-- Trimming takes no words from a text. -/
theorem words_trim (text : String) : words (trim text) = words text := by
  obtain ⟨before, after, hbefore, hafter, htext⟩ := wraps_trim text
  refine (words_eq_iff.2 ?_).symm
  rw [htext]
  exact ((words_eq_iff.1 rfl).append_blank hafter).blank_append hbefore

end Text

/-! ### The grammar -/

/-- The number of a decimal digit. -/
def digitValue (c : Char) : Nat := c.toNat - '0'.toNat

/-- At least one digit and nothing else writes a number, the greatest power of ten first. -/
structure WritesNat (digits : List Char) (n : Nat) : Prop where
  /-- There is a digit. -/
  ne_nil : digits ≠ []
  /-- All are digits. -/
  isDigit : ∀ c ∈ digits, c.isDigit = true
  /-- They write the number. -/
  value : Nat.ofDigits 10 (digits.map digitValue).reverse = n

/-- Digits with at most one sign in front write an integer. -/
inductive WritesSigned : List Char → Int → Prop
  /-- There is no sign. -/
  | plain {digits : List Char} {n : Nat} (h : WritesNat digits n) : WritesSigned digits n
  /-- There is a plus sign. -/
  | plus {digits : List Char} {n : Nat} (h : WritesNat digits n) : WritesSigned ('+' :: digits) n
  /-- There is a minus sign. -/
  | minus {digits : List Char} {n : Nat} (h : WritesNat digits n) :
      WritesSigned ('-' :: digits) (-n)

/-- What is read as an integer: one that is written, and one with another plus sign in front. -/
inductive WritesInteger : List Char → Int → Prop
  /-- It is written. -/
  | signed {text : List Char} {n : Int} (h : WritesSigned text n) : WritesInteger text n
  /-- A plus sign stands in front of what is written. -/
  | plus {text : List Char} {n : Int} (h : WritesSigned text n) : WritesInteger ('+' :: text) n

/-! ### Reading -/

/-- Each digit is put behind those already read. -/
theorem digitsValue_eq (start : Nat) (digits : List Char) :
    digitsValue start digits =
      Nat.ofDigits 10 (digits.map digitValue).reverse + 10 ^ digits.length * start := by
  induction digits generalizing start with
  | nil => simp [digitsValue]
  | cons c rest ih =>
    change digitsValue (10 * start + digitValue c) rest = _
    rw [ih, List.map_cons, List.reverse_cons, Nat.ofDigits_append, Nat.ofDigits_singleton,
      List.length_reverse, List.length_map, List.length_cons]
    ring

theorem writesNat_iff {digits : List Char} {n : Nat} :
    WritesNat digits n ↔
      (digits.isEmpty || !digits.all Char.isDigit) = false ∧ digitsValue 0 digits = n := by
  have hvalue : digitsValue 0 digits = Nat.ofDigits 10 (digits.map digitValue).reverse := by
    rw [digitsValue_eq, Nat.mul_zero, Nat.add_zero]
  have hdigits : (digits.isEmpty || !digits.all Char.isDigit) = false ↔
      digits ≠ [] ∧ ∀ c ∈ digits, c.isDigit = true := by simp
  rw [hvalue, hdigits]
  exact ⟨fun h => ⟨⟨h.ne_nil, h.isDigit⟩, h.value⟩, fun h => ⟨h.1.1, h.1.2, h.2⟩⟩

/-- A number does not begin with a sign. -/
theorem WritesNat.splitSign_eq {digits : List Char} {n : Nat} (h : WritesNat digits n) :
    splitSign digits = (false, digits) := by
  unfold splitSign
  split
  next => exact absurd (h.isDigit '-' List.mem_cons_self) (by decide)
  next => exact absurd (h.isDigit '+' List.mem_cons_self) (by decide)
  next => rfl

/-- Behind the sign there has to be a number. -/
theorem readSigned_eq_some {text : List Char} {n : Int} :
    readSigned text = some n ↔ ∃ size : Nat, WritesNat (splitSign text).2 size ∧
      n = if (splitSign text).1 then -(size : Int) else size := by
  rw [readSigned]
  -- How the sign was split off is no matter here.
  generalize splitSign text = signed
  obtain ⟨negative, digits⟩ := signed
  dsimp only
  cases hdigits : digits.isEmpty || !digits.all Char.isDigit with
  | true => simp [writesNat_iff, hdigits]
  | false => simp [writesNat_iff, hdigits, eq_comm]

theorem readSigned_eq_some_iff {text : List Char} {n : Int} :
    readSigned text = some n ↔ WritesSigned text n := by
  rw [readSigned_eq_some]
  constructor
  · rintro ⟨size, hsize, rfl⟩
    unfold splitSign at hsize ⊢
    split at hsize
    next => exact .minus hsize
    next => exact .plus hsize
    next => exact .plain hsize
  · intro h
    cases h with
    | plain h => exact ⟨_, by rwa [h.splitSign_eq], by rw [h.splitSign_eq]; rfl⟩
    | plus h => exact ⟨_, h, rfl⟩
    | minus h => exact ⟨_, h, rfl⟩

/-- An integer that was read is narrowed to the word that it is. -/
theorem bind_narrow?_eq_some_iff {read : Option Int} {n : Int64} :
    read >>= Word.narrow? = some n ↔ read = some n.toInt := by
  rw [Option.bind_eq_bind, Option.bind_eq_some_iff]
  constructor
  · rintro ⟨m, rfl, hnarrow⟩
    rw [Word.toInt_of_narrow? hnarrow]
  · rintro rfl
    exact ⟨n.toInt, rfl, Word.narrow?_toInt n⟩

theorem writesInteger_plus {text : List Char} {n : Int} :
    WritesInteger ('+' :: text) n ↔ WritesSigned text n := by
  refine ⟨fun h => ?_, .plus⟩
  cases h with
  | plus h => exact h
  | signed h =>
    -- A plus sign that is the sign of the literal stands in front of one without a sign.
    cases h with
    | plus h => exact .plain h
    | plain h => exact absurd (h.isDigit '+' List.mem_cons_self) (by decide)

theorem readInteger_eq_some_iff {text : String} {n : Int64} :
    readInteger text = some n ↔ WritesInteger text.toList n.toInt := by
  unfold readInteger
  split
  next rest htext =>
    rw [bind_narrow?_eq_some_iff, readSigned_eq_some_iff, htext, writesInteger_plus]
  next hplus =>
    rw [bind_narrow?_eq_some_iff, readSigned_eq_some_iff]
    refine ⟨.signed, fun h => ?_⟩
    -- Without a plus sign in front there is nothing to strip.
    generalize text.toList = chars at h hplus
    cases h with
    | signed h => exact h
    | plus _ => exact absurd rfl (hplus _)

/-! ### Scalars -/

theorem isBlank_of_isDigit {c : Char} (h : c.isDigit = true) : Text.isBlank c = false := by
  have hrange : 48 ≤ c.toNat ∧ c.toNat ≤ 57 := by
    simpa [Char.isDigit, UInt32.le_iff_toNat_le] using h
  simp [Text.isBlank, Text.blankRanges, Text.CodeRanges.has]
  omega

/-- What is written consists of at least one character, and none is white space. -/
theorem WritesSigned.isBlank {text : List Char} {n : Int} (h : WritesSigned text n) :
    text ≠ [] ∧ ∀ c ∈ text, Text.isBlank c = false := by
  cases h with
  | plain h => exact ⟨h.ne_nil, fun c hc => isBlank_of_isDigit (h.isDigit c hc)⟩
  | plus h | minus h =>
    exact ⟨List.cons_ne_nil _ _, List.forall_mem_cons.2
      ⟨by decide, fun c hc => isBlank_of_isDigit (h.isDigit c hc)⟩⟩

theorem WritesInteger.isBlank {text : List Char} {n : Int} (h : WritesInteger text n) :
    text ≠ [] ∧ ∀ c ∈ text, Text.isBlank c = false := by
  cases h with
  | signed h => exact h.isBlank
  | plus h => exact ⟨List.cons_ne_nil _ _, List.forall_mem_cons.2 ⟨by decide, h.isBlank.2⟩⟩

namespace Scalar

variable {text : String} {scalar : Scalar}

theorem read_eq_ok_iff {baseType : BaseType} :
    read baseType text = .ok scalar ↔ read? baseType text = some scalar := by
  unfold read
  cases read? baseType text <;> simp

theorem read?_integer_eq_some_iff :
    read? .integer text = some scalar ↔ ∃ n literal, scalar = .integer n ∧
      Text.Wraps text literal ∧ WritesInteger literal.toList n.toInt := by
  change (readInteger (Text.trim text)).map integer = some scalar ↔ _
  rw [Option.map_eq_some_iff]
  constructor
  · rintro ⟨n, hread, rfl⟩
    exact ⟨n, Text.trim text, rfl, Text.wraps_trim text, readInteger_eq_some_iff.1 hread⟩
  · rintro ⟨n, literal, rfl, hwraps, hwrites⟩
    obtain ⟨hne, hblank⟩ := hwrites.isBlank
    rw [Text.trim_eq_of_wraps hwraps hne hblank]
    exact ⟨n, readInteger_eq_some_iff.2 hwrites, rfl⟩

theorem twoWords?_eq_some_iff {first second : String} :
    twoWords? text = some (first, second) ↔ Text.words text = [first, second] := by
  unfold twoWords?
  split
  next a b hwords => simp [hwords]
  next hnot => exact ⟨nofun, fun h => absurd h (hnot first second)⟩

theorem read?_point_eq_some_iff :
    read? .point text = some scalar ↔ ∃ x y first second, scalar = .point x y ∧
      Text.Splits text.toList [first, second] ∧ WritesInteger first.toList x.toInt ∧
      WritesInteger second.toList y.toInt := by
  simp only [read?, Option.bind_eq_bind, Option.bind_eq_some_iff, Prod.exists,
    twoWords?_eq_some_iff, Text.words_trim, Text.words_eq_iff, readInteger_eq_some_iff,
    Option.some.injEq]
  constructor
  · rintro ⟨first, second, hsplits, x, hx, y, hy, rfl⟩
    exact ⟨x, y, first, second, rfl, hsplits, hx, hy⟩
  · rintro ⟨x, y, first, second, rfl, hsplits, hx, hy⟩
    exact ⟨first, second, hsplits, x, hx, y, hy, rfl⟩

/-- **What is read as an integer is one literal in any white space, and as a point two.** The word
that is read is the one that the literal writes, where a plus sign may stand in front of a literal
that has a sign already. -/
theorem read_integer_point_iff (text : String) (scalar : Scalar) :
    (read .integer text = .ok scalar ↔ ∃ n literal, scalar = .integer n ∧ Text.Wraps text literal ∧
      WritesInteger literal.toList n.toInt) ∧
    (read .point text = .ok scalar ↔ ∃ x y first second, scalar = .point x y ∧
      Text.Splits text.toList [first, second] ∧ WritesInteger first.toList x.toInt ∧
      WritesInteger second.toList y.toInt) :=
  ⟨read_eq_ok_iff.trans read?_integer_eq_some_iff, read_eq_ok_iff.trans read?_point_eq_some_iff⟩

/-- One with two plus signs in front is read as one, though no text with two signs writes it. -/
theorem not_forall_read_integer_point_iff :
    ¬∀ (text : String) (scalar : Scalar),
      (read .integer text = .ok scalar ↔ ∃ n literal, scalar = .integer n ∧
        Text.Wraps text literal ∧ WritesSigned literal.toList n.toInt) ∧
      (read .point text = .ok scalar ↔ ∃ x y first second, scalar = .point x y ∧
        Text.Splits text.toList [first, second] ∧ WritesSigned first.toList x.toInt ∧
        WritesSigned second.toList y.toInt) := by
  intro h
  have hread : read .integer "++1" = .ok (.integer 1) := read_eq_ok_iff.2 (by decide +kernel)
  obtain ⟨n, literal, -, hwraps, hwrites⟩ := (h "++1" (.integer 1)).1.1 hread
  obtain ⟨hne, hblank⟩ := hwrites.isBlank
  have htrim : Text.trim "++1" = literal := Text.trim_eq_of_wraps hwraps hne hblank
  have hnone : readSigned (Text.trim "++1").toList = none := by decide +kernel
  -- The literal would be the whole text, which is not read when no sign is stripped before.
  rw [htrim, readSigned_eq_some_iff.2 hwrites] at hnone
  cases hnone

end Scalar

end Assessment
