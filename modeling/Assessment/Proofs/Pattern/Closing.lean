import Assessment.Pattern.Reading

/-!
# Texts with something behind them

A pattern is matched with a whole text by putting it between others, and its own text is then read
with the closing of a group behind it. Each reader is looked at twice here, on a text and on the
same text with that behind it. Most often it does the same and leaves what is behind. There are two
other ways: the text may end in a comment, which then goes on over all that is behind, and a reader
that fails at the end of the text may go on with what is behind, but then something of it is gone.

## Main definitions

- `Pattern.closing`: what stands behind the text.
- `Pattern.Trails`: what is left of both texts by a reader that cannot fail.
- `Pattern.Follows`: what a reader makes of both texts.
- `Pattern.IsReader`: a reader whose results follow one another, and which leaves a part of its
  text.

## Main results

- `Pattern.IsReader.bind`, `Pattern.IsReader.skip`: readers one after the other.
- `Pattern.isReader_readBounds`, `Pattern.isReader_readOpening`: what follows an opening brace and
  an opening parenthesis.
- `Pattern.follows_readEscape`: what follows a backslash.
-/

namespace Assessment

namespace Pattern

/-- What stands behind a pattern that is matched with a whole text. -/
def closing : List Char := [')', '$']

theorem closing_of_suffix {chars rest : List Char} (h : rest <:+ chars ++ closing)
    (hlen : rest.length < 3) : rest <:+ closing :=
  List.suffix_of_suffix_length_le h (List.suffix_append chars closing) (Nat.le_of_lt_succ hlen)

/-- What is left of both texts: the same and the closing, or nothing of both. -/
def Trails (short long : List Char) : Prop := long = short ++ closing ∨ short = [] ∧ long = []

/-- What is made of both texts: the same with the closing behind it, the same with nothing behind
it, or nothing of the shorter text and something else of the longer one, of which less than so many
characters are left then. -/
inductive Follows {α : Type} (bound : Nat) :
    Option (α × List Char) → Option (α × List Char) → Prop
  /-- Both are read in the same way. -/
  | same (a : α) (rest : List Char) : Follows bound (some (a, rest)) (some (a, rest ++ closing))
  /-- Both are read in the same way, the longer one with the closing in a comment. -/
  | commented (a : α) : Follows bound (some (a, [])) (some (a, []))
  /-- The shorter text ends too early. -/
  | short {long : Option (α × List Char)}
      (h : ∀ a rest, long = some (a, rest) → rest.length < bound) : Follows bound none long

/-- A reader that cannot fail makes the same of both texts. -/
theorem Trails.follows {α : Type} {bound : Nat} {short long : List Char} (h : Trails short long)
    (a : α) : Follows bound (some (a, short)) (some (a, long)) := by
  obtain rfl | ⟨rfl, rfl⟩ := h
  · exact .same a short
  · exact .commented a

/-- A reader leaves a part of its text, and what it makes of two texts follows one another. -/
structure IsReader {α : Type} (bound : Nat) (reader : List Char → Option (α × List Char)) :
    Prop where
  /-- What is left stands at the end of the text. -/
  suffix : ∀ {chars a rest}, reader chars = some (a, rest) → rest <:+ chars
  /-- With the closing behind it the text is read in the same way, or not. -/
  follows : ∀ chars, Follows bound (reader chars) (reader (chars ++ closing))

/-- The rest of a text behind all that is read of it. -/
def paired {α β : Type} (result : Option (α × β × List Char)) : Option ((α × β) × List Char) :=
  result.map fun result => ((result.1, result.2.1), result.2.2)

@[simp]
theorem paired_none {α β : Type} : paired (none : Option (α × β × List Char)) = none := rfl

@[simp]
theorem paired_some {α β : Type} (a : α) (b : β) (rest : List Char) :
    paired (some (a, b, rest)) = some ((a, b), rest) := rfl

section readers

variable {α β : Type} {bound bound' : Nat} {short long : Option (α × List Char)}
  {reader : List Char → Option (α × List Char)}

theorem follows_none : Follows bound (none : Option (α × List Char)) none := .short nofun

theorem Follows.mono (h : Follows bound short long) (hle : bound ≤ bound') :
    Follows bound' short long := by
  cases h with
  | same a rest => exact .same a rest
  | commented a => exact .commented a
  | short h => exact .short fun a rest hlong => Nat.lt_of_lt_of_le (h a rest hlong) hle

theorem Follows.map (h : Follows bound short long) (f : α → β) :
    Follows bound (short.map fun result => (f result.1, result.2))
      (long.map fun result => (f result.1, result.2)) := by
  cases h with
  | same a rest => exact .same (f a) rest
  | commented a => exact .commented (f a)
  | short h =>
    refine .short fun b rest hresult => ?_
    obtain ⟨⟨a, rest'⟩, hlong, heq⟩ := Option.map_eq_some_iff.1 hresult
    cases heq
    exact h a _ hlong

/-- What is read next follows if it does on what was left of the texts, and if little enough is left
of the closing once the shorter text has ended. -/
theorem Follows.bindWith {next next' : α → List Char → Option (β × List Char)}
    (h : Follows bound short long)
    (hsame : ∀ a rest, short = some (a, rest) →
      Follows bound' (next a rest) (next' a (rest ++ closing)))
    (hcommented : ∀ a, short = some (a, []) → Follows bound' (next a []) (next' a []))
    (hlong : ∀ a rest b rest', long = some (a, rest) → rest.length < bound →
      next' a rest = some (b, rest') → rest'.length < bound') :
    Follows bound' (short.bind fun result => next result.1 result.2)
      (long.bind fun result => next' result.1 result.2) := by
  cases h with
  | same a rest => exact hsame a rest rfl
  | commented a => exact hcommented a rfl
  | short h =>
    refine .short fun b rest' hresult => ?_
    obtain ⟨⟨a, rest⟩, ha, hnext⟩ := Option.bind_eq_some_iff.1 hresult
    exact hlong a rest b rest' ha (h a rest ha) hnext

/-- What is read next follows if it does on what was left of the texts. -/
theorem Follows.bind {next next' : α → List Char → Option (β × List Char)}
    (h : Follows bound short long)
    (hsame : ∀ a rest, short = some (a, rest) →
      Follows bound (next a rest) (next' a (rest ++ closing)))
    (hcommented : ∀ a, short = some (a, []) → Follows bound (next a []) (next' a []))
    (hsuffix : ∀ a rest b rest', next' a rest = some (b, rest') → rest' <:+ rest) :
    Follows bound (short.bind fun result => next result.1 result.2)
      (long.bind fun result => next' result.1 result.2) :=
  h.bindWith hsame hcommented fun a rest b rest' _ hrest hnext =>
    Nat.lt_of_le_of_lt (hsuffix a rest b rest' hnext).length_le hrest

/-- Less than nothing is left if both texts are refused. -/
theorem Follows.eq_none (h : Follows 0 (none : Option (α × List Char)) long) : long = none := by
  cases h with
  | short h =>
    cases long with
    | none => rfl
    | some result => exact absurd (h result.1 result.2 rfl) (Nat.not_lt_zero _)

/-- What the shorter text is if the longer one is read. -/
theorem Follows.of_some {a : α} {rest : List Char} (h : Follows bound short (some (a, rest))) :
    (∃ before, short = some (a, before) ∧ rest = before ++ closing) ∨
      (short = some (a, []) ∧ rest = []) ∨ short = none ∧ rest.length < bound := by
  generalize hlong : some (a, rest) = long at h
  cases h with
  | same =>
    cases hlong
    exact .inl ⟨_, rfl, rfl⟩
  | commented =>
    cases hlong
    exact .inr (.inl ⟨rfl, rfl⟩)
  | short h => exact .inr (.inr ⟨rfl, h a rest hlong.symm⟩)

/-- Nothing can be left of an empty text. -/
theorem IsReader.follows_nil (h : IsReader bound reader) :
    Follows bound (reader []) (reader []) := by
  cases hreader : reader [] with
  | none => exact follows_none
  | some result =>
    obtain ⟨a, rest⟩ := result
    obtain rfl := List.suffix_nil.1 (h.suffix hreader)
    exact .commented a

theorem IsReader.mono (h : IsReader bound reader) (hle : bound ≤ bound') :
    IsReader bound' reader :=
  ⟨h.suffix, fun chars => (h.follows chars).mono hle⟩

theorem IsReader.of_eq {reader' : List Char → Option (α × List Char)} (h : IsReader bound reader)
    (heq : ∀ chars, reader' chars = reader chars) : IsReader bound reader' :=
  (funext heq : reader' = reader) ▸ h

theorem isReader_none : IsReader bound fun _ => (none : Option (α × List Char)) :=
  ⟨nofun, fun _ => follows_none⟩

theorem isReader_some (a : α) : IsReader bound fun chars => some (a, chars) := by
  refine ⟨?_, fun chars => .same a chars⟩
  rintro chars _ _ ⟨⟩
  exact List.suffix_rfl

theorem isReader_option (result : Option α) :
    IsReader bound fun chars => result.map fun a => (a, chars) := by
  cases result with
  | none => exact isReader_none
  | some a => exact isReader_some a

/-- One reader goes on with what another one left. -/
theorem IsReader.bind {next : α → List Char → Option (β × List Char)}
    (h : IsReader bound reader) (hnext : ∀ a, IsReader bound (next a)) :
    IsReader bound fun chars => (reader chars).bind fun result => next result.1 result.2 where
  suffix hresult := by
    obtain ⟨⟨a, rest⟩, hreader, hnextResult⟩ := Option.bind_eq_some_iff.1 hresult
    exact ((hnext a).suffix hnextResult).trans (h.suffix hreader)
  follows chars := (h.follows chars).bind (fun a rest _ => (hnext a).follows rest)
    (fun a _ => (hnext a).follows_nil) fun a _ _ _ hresult => (hnext a).suffix hresult

theorem IsReader.map (h : IsReader bound reader) (f : α → β) :
    IsReader bound fun chars => (reader chars).map fun result => (f result.1, result.2) where
  suffix hresult := by
    obtain ⟨⟨a, rest⟩, hreader, heq⟩ := Option.map_eq_some_iff.1 hresult
    cases heq
    exact h.suffix hreader
  follows chars := (h.follows chars).map f

/-- A reader may take the first character. It fails at the end of the text, and of the closing it
would take something. -/
theorem isReader_uncons {next : Char → List Char → Option (α × List Char)}
    (hbound : 2 ≤ bound) (hnext : ∀ c, IsReader bound (next c)) :
    IsReader bound fun chars => match chars with
      | [] => none
      | c :: rest => next c rest where
  suffix {chars a rest} hresult := by
    cases chars with
    | nil => cases hresult
    | cons c chars => exact ((hnext c).suffix hresult).trans (List.suffix_cons c chars)
  follows chars := by
    cases chars with
    | nil =>
      refine .short fun a rest hresult => ?_
      exact Nat.lt_of_le_of_lt ((hnext ')').suffix hresult).length_le hbound
    | cons c chars => exact (hnext c).follows chars

/-- A reader may go another way behind a mark, which is none of the closing. -/
theorem isReader_mark {marked other : List Char → Option (α × List Char)} {mark : Char}
    (hmark : mark ≠ ')') (hmarked : IsReader bound marked) (hother : IsReader bound other) :
    IsReader bound fun chars =>
      if chars.head? = some mark then marked chars.tail else other chars where
  suffix {chars a rest} hresult := by
    split at hresult
    · exact (hmarked.suffix hresult).trans (List.tail_suffix chars)
    · exact hother.suffix hresult
  follows chars := by
    cases chars with
    | nil =>
      have hclosing : ([] ++ closing).head? ≠ some mark := by simpa [closing] using hmark.symm
      rw [if_neg (by simp), if_neg hclosing]
      exact hother.follows []
    | cons c rest =>
      by_cases hc : c = mark
      · simpa [hc] using hmarked.follows rest
      · simpa [hc] using hother.follows (c :: rest)

end readers

/-! ### White space and numbers -/

@[simp]
theorem isBlank_paren : Text.isBlank ')' = false := by decide

@[simp]
theorem isBlank_dollar : Text.isBlank '$' = false := by decide

theorem trails_skipFrom (inComment : Bool) (chars : List Char) :
    Trails (skipFrom inComment chars) (skipFrom inComment (chars ++ closing)) := by
  induction chars generalizing inComment with
  | nil => cases inComment <;> simp [skipFrom, Trails, closing]
  | cons c rest ih =>
    simp only [List.cons_append, skipFrom]
    split
    · exact ih _
    · split
      · exact ih _
      · split
        · exact ih _
        · exact .inl rfl

theorem trails_skip (flags : PatternFlags) (chars : List Char) :
    Trails (skip flags chars) (skip flags (chars ++ closing)) := by
  unfold skip
  split
  · exact trails_skipFrom false chars
  · exact .inl rfl

theorem skipFrom_suffix (inComment : Bool) (chars : List Char) :
    skipFrom inComment chars <:+ chars := by
  induction chars generalizing inComment with
  | nil => exact List.suffix_rfl
  | cons c rest ih =>
    have hcons (inComment : Bool) : skipFrom inComment rest <:+ c :: rest :=
      (ih inComment).trans (List.suffix_cons c rest)
    simp only [skipFrom]
    split
    · exact hcons _
    · split
      · exact hcons _
      · split
        · exact hcons _
        · exact List.suffix_rfl

theorem skip_suffix (flags : PatternFlags) (chars : List Char) : skip flags chars <:+ chars := by
  unfold skip
  split
  · exact skipFrom_suffix false chars
  · exact List.suffix_rfl

/-- A reader may begin behind what is ignored. -/
theorem IsReader.skip {α : Type} {bound : Nat} {reader : List Char → Option (α × List Char)}
    (h : IsReader bound reader) (flags : PatternFlags) :
    IsReader bound fun chars => reader (skip flags chars) where
  suffix hresult := (h.suffix hresult).trans (skip_suffix _ _)
  follows chars := by
    obtain hskip | ⟨hskip, hskip'⟩ := trails_skip flags chars
    · rw [hskip]
      exact h.follows _
    · rw [hskip, hskip']
      exact h.follows_nil

theorem readDigits_closing (flags : PatternFlags) (inComment : Bool) (chars : List Char) :
    (readDigits flags inComment (chars ++ closing)).1 = (readDigits flags inComment chars).1 ∧
      Trails (readDigits flags inComment chars).2
        (readDigits flags inComment (chars ++ closing)).2 := by
  induction chars generalizing inComment with
  | nil => cases inComment <;> simp [readDigits, Trails, closing]
  | cons c rest ih =>
    simp only [List.cons_append, readDigits]
    split
    · exact ih _
    · split
      · exact ⟨congrArg (c :: ·) (ih false).1, (ih false).2⟩
      · split
        · exact ih _
        · split
          · exact ih _
          · exact ⟨rfl, .inl rfl⟩

theorem readDigits_suffix (flags : PatternFlags) (inComment : Bool) (chars : List Char) :
    (readDigits flags inComment chars).2 <:+ chars := by
  induction chars generalizing inComment with
  | nil => exact List.suffix_rfl
  | cons c rest ih =>
    have hcons (inComment : Bool) : (readDigits flags inComment rest).2 <:+ c :: rest :=
      (ih inComment).trans (List.suffix_cons c rest)
    simp only [readDigits]
    split
    · exact hcons _
    · split
      · exact hcons _
      · split
        · exact hcons _
        · split
          · exact hcons _
          · exact List.suffix_rfl

theorem dropWhile_isBlank_closing (chars : List Char) :
    (chars ++ closing).dropWhile Text.isBlank = chars.dropWhile Text.isBlank ++ closing := by
  induction chars with
  | nil => simp [closing]
  | cons c rest ih =>
    simp only [List.cons_append, List.dropWhile_cons, ih]
    split <;> rfl

theorem isReader_readCount (flags : PatternFlags) : IsReader 0 (readCount flags) where
  suffix {chars count rest} hresult := by
    simp only [readCount] at hresult
    split at hresult
    · cases hresult
    · split at hresult
      · cases hresult
        exact (List.dropWhile_suffix _).trans
          ((readDigits_suffix _ _ _).trans (List.dropWhile_suffix _))
      · cases hresult
  follows chars := by
    have hdigits := readDigits_closing flags false (chars.dropWhile Text.isBlank)
    simp only [readCount, dropWhile_isBlank_closing]
    rw [hdigits.1]
    split
    · exact follows_none
    · split
      · obtain hrest | ⟨hrest, hrest'⟩ := hdigits.2
        · rw [hrest, dropWhile_isBlank_closing]
          exact .same _ _
        · rw [hrest, hrest']
          exact .commented _
      · exact follows_none

theorem isReader_readBraced (flags : PatternFlags) (inComment : Bool) :
    IsReader 0 (readBraced flags inComment) where
  suffix {chars text rest} hresult := by
    induction chars generalizing inComment text with
    | nil => cases hresult
    | cons c chars ih =>
      have hcons {inComment : Bool} {text : List Char}
          (h : readBraced flags inComment chars = some (text, rest)) : rest <:+ c :: chars :=
        (ih _ h).trans (List.suffix_cons c chars)
      simp only [readBraced] at hresult
      split at hresult
      · exact hcons hresult
      · split at hresult
        · exact hcons hresult
        · split at hresult
          · exact hcons hresult
          · split at hresult
            · cases hresult
              exact List.suffix_cons _ _
            · obtain ⟨⟨text', rest'⟩, hread, heq⟩ := Option.map_eq_some_iff.1 hresult
              cases heq
              exact hcons hread
  follows chars := by
    induction chars generalizing inComment with
    | nil =>
      cases inComment <;> cases hverbose : flags.verbose <;>
        simp [readBraced, closing, hverbose, follows_none]
    | cons c chars ih =>
      simp only [List.cons_append, readBraced]
      split
      · exact ih _
      · split
        · exact ih _
        · split
          · exact ih _
          · split
            · exact .same _ _
            · exact (ih false).map (c :: ·)

theorem isReader_readChars (flags : PatternFlags) (count : Nat) :
    IsReader 2 (readChars flags count) := by
  induction count with
  | zero => exact isReader_some []
  | succ count ih =>
    refine ((isReader_uncons (Nat.le_refl 2) fun c => ih.map (c :: ·)).skip flags).of_eq ?_
    intro chars
    rw [readChars]
    cases skip flags chars <;> rfl

/-! ### Escapes -/

theorem isReader_readProperty (flags : PatternFlags) (negative : Bool) :
    IsReader 2 (readProperty flags negative) := by
  have hname : ∀ c, IsReader 2 fun rest =>
      if c = '\x7b' then readBraced flags false rest else some ([c], rest) := by
    intro c
    split
    · exact (isReader_readBraced flags false).mono (Nat.zero_le 2)
    · exact isReader_some [c]
  refine (((isReader_uncons (Nat.le_refl 2) hname).skip flags).bind fun name =>
    isReader_option ((Property.find? name).map fun found =>
      Primitive.set (signed (negative != found.1) (foldSet flags found.2)))).of_eq fun chars => ?_
  rw [readProperty]
  cases skip flags chars with
  | nil => rfl
  | cons c rest =>
    by_cases hc : c = '\x7b'
    · subst hc
      rcases hread : readBraced flags false rest with _ | ⟨name, rest'⟩
      · simp [hread]
      · cases hfind : Property.find? name <;> simp [hread, hfind]
    · cases hfind : Property.find? [c] <;> simp [hc, hfind]

/-- The character that digits write, if they are read. -/
theorem IsReader.hex {reader : List Char → Option (List Char × List Char)} {bound : Nat}
    (h : IsReader bound reader) (byte : Bool) :
    IsReader bound (fun chars => do
      let (digits, rest) ← reader chars
      some (Primitive.literal (← hexChar? digits) byte, rest)) := by
  refine (h.bind fun digits => isReader_option ((hexChar? digits).map fun c =>
    Primitive.literal c byte)).of_eq fun chars => ?_
  rcases reader chars with _ | ⟨digits, rest⟩
  · rfl
  · cases hhex : hexChar? digits <;> simp [hhex]

theorem isReader_readHex (flags : PatternFlags) (letter : Char) :
    IsReader 2 (readHex flags letter) := by
  have hbraced : IsReader 2 (readBraced flags false) :=
    (isReader_readBraced flags false).mono (Nat.zero_le 2)
  have hplain :=
    isReader_readChars flags (if letter = 'x' then 2 else if letter = 'u' then 4 else 8)
  refine ((isReader_mark (by decide : '\x7b' ≠ ')') (hbraced.hex false)
    (hplain.hex (letter = 'x'))).skip flags).of_eq fun chars => ?_
  rw [readHex]
  rcases skip flags chars with _ | ⟨c, rest⟩
  · rfl
  · by_cases hc : c = '\x7b' <;> simp [hc]

/-! ### Repetition -/

theorem isReader_readLazy (least : Nat) (greatest : Option Nat) :
    IsReader 0 fun chars => some (readLazy least greatest chars) := by
  refine (isReader_mark (by decide : '?' ≠ ')') (isReader_some ⟨least, greatest, false⟩)
    (isReader_some ⟨least, greatest, true⟩)).of_eq fun chars => ?_
  rcases chars with _ | ⟨c, rest⟩
  · rfl
  · by_cases hc : c = '?' <;> simp [readLazy, hc]

theorem isReader_readBounds (flags : PatternFlags) : IsReader 0 (readBounds flags) := by
  have hlazy (least : Nat) (greatest : Option Nat) := (isReader_readLazy least greatest).skip flags
  have hwithin (least greatest : Nat) : IsReader 0 fun chars =>
      if least ≤ greatest then some (readLazy least (some greatest) (skip flags chars))
      else none := by
    split
    · exact hlazy least (some greatest)
    · exact isReader_none
  have hgreatest (least : Nat) := (isReader_readCount flags).bind fun greatest =>
    isReader_mark (by decide : '\x7d' ≠ ')') (hwithin least greatest) isReader_none
  have hrest (least : Nat) := (isReader_mark (by decide : '\x7d' ≠ ')') (hlazy least none)
    (hgreatest least)).skip flags
  refine (((isReader_readCount flags).skip flags).bind fun least =>
    isReader_mark (by decide : '\x7d' ≠ ')') (hlazy least (some least))
      (isReader_mark (by decide : ',' ≠ ')') (hrest least) isReader_none)).of_eq fun chars => ?_
  rw [readBounds]
  rcases hcount : readCount flags (skip flags chars) with _ | ⟨least, _ | ⟨c, rest⟩⟩
  · rfl
  · rfl
  · by_cases hbrace : c = '\x7d'
    · subst hbrace
      rfl
    · by_cases hcomma : c = ','
      · subst hcomma
        simp only [Option.bind_eq_bind, Option.bind_some, List.tail_cons]
        rcases skip flags rest with _ | ⟨d, rest⟩
        · rfl
        by_cases hd : d = '\x7d'
        · simp [hd]
        · rcases hgreatest : readCount flags (d :: rest) with _ | ⟨greatest, _ | ⟨e, after⟩⟩
          · simp [hd, hgreatest]
          · simp [hd, hgreatest]
          · by_cases he : e = '\x7d' <;> simp [hd, hgreatest, he]
      · simp [hbrace, hcomma]

/-! ### Groups and flags -/

theorem readFlags_suffix {flags inner : PatternFlags} {seen seen' chars rest : List Char}
    {value : Bool} {last : Char}
    (h : readFlags flags seen value chars = some (inner, seen', last, rest)) : rest <:+ chars := by
  induction chars generalizing flags seen value with
  | nil => cases h
  | cons c chars ih =>
    rw [readFlags] at h
    split at h
    · split at h
      · cases h
      · cases h
        exact List.suffix_cons _ _
    · split at h
      · cases h
      · split at h
        · exact (ih h).trans (List.suffix_cons c chars)
        · obtain ⟨next, -, hnext⟩ := Option.bind_eq_some_iff.1 h
          exact (ih hnext).trans (List.suffix_cons c chars)

theorem isReader_readFlags (flags : PatternFlags) (seen : List Char) (value : Bool) :
    IsReader 2 fun chars => (readFlags flags seen value chars).map fun result =>
      ((result.1, result.2.1, result.2.2.1), result.2.2.2) where
  suffix {chars a rest} hresult := by
    obtain ⟨⟨inner, seen', last, rest'⟩, hread, heq⟩ := Option.map_eq_some_iff.1 hresult
    cases heq
    exact readFlags_suffix hread
  follows chars := by
    induction chars generalizing flags seen value with
    | nil =>
      -- the parenthesis of the closing ends the flags, and is gone then
      refine .short fun a rest hresult => ?_
      rw [List.nil_append, closing, readFlags, if_pos (.inr rfl)] at hresult
      split at hresult
      · cases hresult
      · cases hresult
        exact Nat.lt_succ_self 1
    | cons c chars ih =>
      simp only [List.cons_append, readFlags]
      split
      · split
        · exact follows_none
        · exact .same _ _
      · split
        · exact follows_none
        · split
          · exact ih _ _ _
          · cases setFlag? flags value c with
            | none => exact follows_none
            | some next => exact ih _ _ _

/-- A name that ends with a mark ends before the closing, or neither text has that mark. -/
theorem drop_takeWhile_closing {mark : Char} (hmark : mark ∉ closing) (chars : List Char) :
    (chars.drop (chars.takeWhile (· ≠ mark)).length = [] ∧
      (chars ++ closing).drop ((chars ++ closing).takeWhile (· ≠ mark)).length = []) ∨
    ((chars ++ closing).takeWhile (· ≠ mark) = chars.takeWhile (· ≠ mark) ∧
      ∃ rest, chars.drop (chars.takeWhile (· ≠ mark)).length = mark :: rest ∧
        (chars ++ closing).drop (chars.takeWhile (· ≠ mark)).length = mark :: rest ++ closing) := by
  induction chars with
  | nil =>
    obtain ⟨hparen, hdollar⟩ : mark ≠ ')' ∧ mark ≠ '$' := by simpa [closing] using hmark
    simp [closing, hparen.symm, hdollar.symm]
  | cons c rest ih =>
    by_cases hc : c = mark
    · exact .inr (by simp [hc])
    · simpa [List.takeWhile_cons, hc] using ih

theorem isReader_readGroupName (flags : PatternFlags) : IsReader 0 (readGroupName flags) where
  suffix {chars a rest} hresult := by
    simp only [readGroupName] at hresult
    split at hresult
    next hdrop =>
      split at hresult
      · cases hresult
        exact (List.suffix_cons _ _).trans (hdrop ▸ List.drop_suffix _ _)
      · cases hresult
    next => cases hresult
  follows chars := by
    simp only [readGroupName]
    obtain ⟨hshort, hlong⟩ | ⟨hname, rest, hshort, hlong⟩ :=
      drop_takeWhile_closing (by decide : '>' ∉ closing) chars
    · rw [hshort, hlong]
      exact follows_none
    · rw [hname, hshort, hlong, List.cons_append]
      dsimp only
      split
      · exact .same _ _
      · exact follows_none

/-- The flags that begin a group, or hold up to its end. -/
def readFlagged (flags : PatternFlags) (chars : List Char) : Option (Opening × List Char) := do
  let (inner, seen, last, rest) ← readFlags flags [] true chars
  if last = ':' then some (.group inner false none, rest)
  else if seen.isEmpty then none
  else some (.flags inner, rest)

theorem isReader_readFlagged (flags : PatternFlags) : IsReader 2 (readFlagged flags) := by
  have hopening : ∀ found : PatternFlags × List Char × Char, IsReader 2 fun chars =>
      if found.2.2 = ':' then some (Opening.group found.1 false none, chars)
      else if found.2.1.isEmpty then none else some (.flags found.1, chars) := by
    intro found
    split
    · exact isReader_some _
    · split
      · exact isReader_none
      · exact isReader_some _
  refine ((isReader_readFlags flags [] true).bind hopening).of_eq fun chars => ?_
  rw [readFlagged]
  cases readFlags flags [] true chars <;> rfl

theorem isReader_readOpening (flags : PatternFlags) : IsReader 2 (readOpening flags) := by
  have hname := (isReader_readGroupName flags).mono (Nat.zero_le 2)
  have hangle := isReader_mark (by decide : '=' ≠ ')') isReader_none
    (isReader_mark (by decide : '!' ≠ ')') isReader_none hname)
  have hmarked := isReader_mark (by decide : '=' ≠ ')') isReader_none
    (isReader_mark (by decide : '!' ≠ ')') isReader_none
      (isReader_mark (by decide : '<' ≠ ')') hangle
        (isReader_mark (by decide : 'P' ≠ ')')
          (isReader_mark (by decide : '<' ≠ ')') hname isReader_none)
          (isReader_readFlagged flags))))
  refine ((isReader_mark (by decide : '?' ≠ ')') hmarked
    (isReader_some (.group flags true none))).skip flags).of_eq fun chars => ?_
  rw [readOpening]
  rcases skip flags chars with _ | ⟨c, rest⟩
  · rfl
  by_cases hmark : c = '?'
  · subst hmark
    rcases rest with _ | ⟨d, rest⟩
    · rfl
    by_cases hangled : d = '<'
    · subst hangled
      rcases rest with _ | ⟨e, rest⟩
      · rfl
      · by_cases hequal : e = '='
        · subst hequal
          rfl
        · by_cases hbang : e = '!'
          · subst hbang
            rfl
          · simp [hequal, hbang]
    by_cases hnamed : d = 'P'
    · subst hnamed
      rcases rest with _ | ⟨e, rest⟩
      · rfl
      · by_cases hangled : e = '<'
        · subst hangled
          rfl
        · -- the letter before a name is no flag
          have hnone : readFlags flags [] true ('P' :: e :: rest) = none := rfl
          simp [hangled, hnone]
    by_cases hequal : d = '='
    · subst hequal
      rfl
    by_cases hbang : d = '!'
    · subst hbang
      rfl
    simp [hangled, hnamed, hequal, hbang, readFlagged]
  · simp [hmark]

/-! ### What follows a backslash -/

/-- What follows a backslash is read by a reader, but for the sign of a boundary. -/
theorem isReader_readEscape {c : Char} (flags : PatternFlags) (hc : c ≠ 'b') :
    IsReader 2 fun rest => readEscape flags (c :: rest) := by
  simp only [readEscape, hc, if_false]
  split
  · exact isReader_readHex flags c
  · split
    · split
      · exact isReader_readProperty flags (c = 'P')
      · exact isReader_none
    · split
      · refine ((isReader_option (shorthand? flags c)).map .set).of_eq fun rest => ?_
        cases shorthand? flags c <;> rfl
      · repeat' split
        all_goals first
          | exact isReader_some _
          | exact isReader_none

theorem readBoundary_suffix {flags : PatternFlags} {chars rest : List Char} {primitive : Primitive}
    (h : readBoundary flags chars = some (primitive, rest)) : rest <:+ chars := by
  unfold readBoundary at h
  dsimp only at h
  split at h
  next inner =>
    split at h
    · cases h
    · split at h
      · obtain ⟨⟨name, rest'⟩, hread, h⟩ := Option.bind_eq_some_iff.1 h
        obtain ⟨side, -, h⟩ := Option.bind_eq_some_iff.1 h
        cases h
        exact ((isReader_readBraced flags false).suffix hread).trans (List.suffix_cons _ _)
      · cases h
        exact List.suffix_rfl
  next =>
    cases h
    exact List.suffix_rfl

theorem readEscape_suffix {flags : PatternFlags} {chars rest : List Char} {primitive : Primitive}
    (h : readEscape flags chars = some (primitive, rest)) : rest <:+ chars := by
  cases chars with
  | nil => cases h
  | cons c chars =>
    refine List.IsSuffix.trans ?_ (List.suffix_cons c chars)
    by_cases hc : c = 'b'
    · subst hc
      exact readBoundary_suffix h
    · exact (isReader_readEscape flags hc).suffix h

/-- What is made of both texts, or a brace that is left of the longer one and begins no repetition.
The shorter text ends behind that brace and is refused there. -/
def FollowsOrDangles (flags : PatternFlags) (short long : Option (Primitive × List Char)) : Prop :=
  Follows 2 short long ∨ short = none ∧ ∃ a rest, long = some (.anchor a, '\x7b' :: rest) ∧
    readBounds flags rest = none

/-- The closing is no repetition. -/
theorem readBounds_of_skip {flags : PatternFlags} {chars : List Char}
    (h : skip flags chars = closing) : readBounds flags chars = none := by
  have hcount : readCount flags closing = none := by simp [readCount, readDigits, closing]
  rw [readBounds, h, hcount]
  rfl

/-- The kind of a boundary in braces. -/
theorem isReader_boundaryKind (flags : PatternFlags) : IsReader 2 (fun chars => do
    let (name, rest) ← readBraced flags false chars
    let (_, side) ← braceAnchors.find? (·.1 = String.ofList name)
    some (Primitive.anchor (.word side flags.unicode), rest)) := by
  refine (((isReader_readBraced flags false).mono (Nat.zero_le 2)).bind fun name =>
    (isReader_option (braceAnchors.find? (·.1 = String.ofList name))).map fun found =>
      Primitive.anchor (.word found.2 flags.unicode)).of_eq fun chars => ?_
  rcases readBraced flags false chars with _ | ⟨name, rest⟩
  · rfl
  · cases hfind : braceAnchors.find? (·.1 = String.ofList name) <;> simp [hfind]

theorem follows_readBoundary (flags : PatternFlags) (chars : List Char) :
    FollowsOrDangles flags (readBoundary flags chars) (readBoundary flags (chars ++ closing)) := by
  rcases chars with _ | ⟨c, inner⟩
  · exact .inl (.same _ [])
  by_cases hc : c = '\x7b'
  · subst hc
    rw [List.cons_append, readBoundary, readBoundary]
    dsimp only
    obtain hskip | ⟨hskip, hskip'⟩ := trails_skip flags inner
    · rw [hskip]
      cases hinner : skip flags inner with
      | nil =>
        rw [hinner] at hskip
        exact .inr ⟨rfl, _, _, rfl, readBounds_of_skip hskip⟩
      | cons d rest =>
        rw [List.cons_append]
        dsimp only
        split
        · exact .inl ((isReader_boundaryKind flags).follows inner)
        · exact .inl (.same _ _)
    · rw [hskip, hskip']
      exact .inl follows_none
  · have hplain : ∀ rest, readBoundary flags (c :: rest) =
        some (.anchor (.word .boundary flags.unicode), c :: rest) := by
      intro rest
      simp [readBoundary, hc]
    rw [List.cons_append, hplain, hplain]
    exact .inl (.same _ _)

theorem follows_readEscape (flags : PatternFlags) (chars : List Char) :
    FollowsOrDangles flags (readEscape flags chars) (readEscape flags (chars ++ closing)) := by
  cases chars with
  | nil =>
    refine .inl (.short fun primitive rest h => ?_)
    exact Nat.lt_succ_of_le ((isReader_readEscape flags (by decide)).suffix h).length_le
  | cons c chars =>
    by_cases hc : c = 'b'
    · subst hc
      exact follows_readBoundary flags chars
    · exact .inl ((isReader_readEscape flags hc).follows chars)

end Pattern

end Assessment
