import Assessment.Proofs.Pattern.Closing

/-!
# Classes with something behind them

A class ends with a bracket of its own, and there is none in the closing. So a class is read in the
same way with the closing behind it, or it is never closed and is refused both times. Within a class
this does not hold of everything that is read: the last item of a class that is not closed may be
the parenthesis of the closing.

## Main results

- `Pattern.readClassRest_eq_none`: a class without a closing bracket is refused.
- `Pattern.isReader_readClass`: a class is read in the same way, or refused both times.
-/

namespace Assessment

namespace Pattern

variable {flags : PatternFlags}

/-! ### Items -/

theorem peekFrom_closing {mark : Char} (hmark : mark ≠ ')') (marked : Bool) (chars : List Char) :
    peekFrom marked (chars ++ closing) = some mark ↔ peekFrom marked chars = some mark := by
  induction chars generalizing marked with
  | nil => simp [peekFrom, closing, hmark.symm]
  | cons c rest ih =>
    simp only [List.cons_append, peekFrom]
    split
    · exact ih _
    · split
      · exact ih _
      · exact Iff.rfl

theorem peek_closing {mark : Char} (hmark : mark ≠ ')') (chars : List Char) :
    peek flags (chars ++ closing) = some mark ↔ peek flags chars = some mark := by
  unfold peek
  split
  · exact peekFrom_closing hmark false chars
  · cases chars <;> simp [closing, hmark.symm]

theorem readClassItem_suffix {chars rest : List Char} {primitive : Primitive}
    (h : readClassItem flags chars = some (primitive, rest)) : rest <:+ chars := by
  unfold readClassItem at h
  split at h
  · cases h
  · exact (readEscape_suffix h).trans (List.suffix_cons _ _)
  · cases h
    exact List.suffix_cons _ _

theorem follows_readClassItem (flags : PatternFlags) (chars : List Char) :
    FollowsOrDangles flags (readClassItem flags chars)
      (readClassItem flags (chars ++ closing)) := by
  rcases chars with _ | ⟨c, rest⟩
  · refine .inl (.short fun primitive rest h => ?_)
    cases h
    exact Nat.lt_succ_self 1
  · by_cases hc : c = '\\'
    · subst hc
      exact follows_readEscape flags rest
    · have hitem (rest : List Char) :
          readClassItem flags (c :: rest) = some (.literal c false, rest) := by
        simp [readClassItem]
      rw [List.cons_append, hitem, hitem]
      exact .inl (.same _ _)

theorem readClassItem_length_lt {chars rest : List Char} {primitive : Primitive}
    (h : readClassItem flags chars = some (primitive, rest)) : rest.length < chars.length := by
  unfold readClassItem at h
  split at h
  · cases h
  · exact Nat.lt_succ_of_le (readEscape_suffix h).length_le
  · cases h
    exact Nat.lt_succ_self _

/-- An item of a class that is no range. -/
def singleItem (flags : PatternFlags) (item : Primitive) (chars : List Char) :
    Option (CharSet × List Char) :=
  match item with
  | .set set => some (set, chars)
  | item => (classLiteral? flags item).map fun c => (.single c, chars)

theorem isReader_singleItem (flags : PatternFlags) (item : Primitive) (bound : Nat) :
    IsReader bound (singleItem flags item) := by
  cases item with
  | set set => exact isReader_some set
  | literal c byte =>
    refine ((isReader_option (classLiteral? flags (.literal c byte))).map .single).of_eq fun _ => ?_
    cases hc : classLiteral? flags (.literal c byte) <;> simp [singleItem, hc]
  | anchor a => exact isReader_none

/-- The other end of a range, behind the hyphen. -/
def rangeHigh (flags : PatternFlags) (first : Primitive) (chars : List Char) :
    Option (CharSet × List Char) := do
  let (second, rest) ← readClassItem flags (skip flags chars)
  let low ← classLiteral? flags first
  let high ← classLiteral? flags second
  if low ≤ high then some (.ranges [(low.toNat, high.toNat)], rest) else none

theorem isReader_rangeHigh (flags : PatternFlags) (first : Primitive) :
    IsReader 2 (rangeHigh flags first) := by
  have hrange (second : Primitive) : IsReader 2 (fun chars => do
      let low ← classLiteral? flags first
      let high ← classLiteral? flags second
      if low ≤ high then some (CharSet.ranges [(low.toNat, high.toNat)], chars) else none) := by
    cases classLiteral? flags first with
    | none => exact isReader_none
    | some low =>
      cases classLiteral? flags second with
      | none => exact isReader_none
      | some high =>
        by_cases hle : low ≤ high
        · simpa [hle] using isReader_some _
        · simpa [hle] using isReader_none
  refine ⟨fun {chars a rest} h => ?_, fun chars => ?_⟩
  · obtain ⟨⟨second, rest'⟩, hread, h⟩ := Option.bind_eq_some_iff.1 h
    exact (((hrange second).suffix h).trans (readClassItem_suffix hread)).trans (skip_suffix _ _)
  · obtain hskip | ⟨hskip, hskip'⟩ := trails_skip flags chars
    · obtain hitem | ⟨hshort, a, rest, hlong, -⟩ := follows_readClassItem flags (skip flags chars)
      · rw [rangeHigh, rangeHigh, hskip]
        exact hitem.bind (fun second rest _ => (hrange second).follows rest)
          (fun second _ => (hrange second).follows_nil)
          fun second _ _ _ h => (hrange second).suffix h
      · -- an anchor is no end of a range
        rw [rangeHigh, rangeHigh, hskip, hshort, hlong]
        refine .short fun set rest h => ?_
        obtain ⟨item, hitem, h⟩ := Option.bind_eq_some_iff.1 h
        cases hitem
        obtain ⟨low, -, h⟩ := Option.bind_eq_some_iff.1 h
        obtain ⟨high, hhigh, -⟩ := Option.bind_eq_some_iff.1 h
        cases hhigh
    · rw [rangeHigh, rangeHigh, hskip, hskip']
      exact follows_none

/-- What stands behind the first item of a range. -/
def readRangeEnd (flags : PatternFlags) (first : Primitive) (chars : List Char) :
    Option (CharSet × List Char) :=
  match skip flags chars with
  | [] => none
  | '-' :: after =>
    if peek flags after = some ']' ∨ peek flags after = some '-' then
      singleItem flags first ('-' :: after)
    else rangeHigh flags first after
  | rest => singleItem flags first rest

theorem readClassRange_eq (chars : List Char) : readClassRange flags chars =
    (readClassItem flags chars).bind fun item => readRangeEnd flags item.1 item.2 := by
  rw [readClassRange]
  rcases readClassItem flags chars with _ | ⟨first, rest⟩
  · rfl
  · simp only [Option.bind_eq_bind, Option.bind_some, readRangeEnd, singleItem]
    rfl

theorem readRangeEnd_suffix {first : Primitive} {chars rest : List Char} {set : CharSet}
    (h : readRangeEnd flags first chars = some (set, rest)) : rest <:+ chars := by
  refine List.IsSuffix.trans ?_ (skip_suffix flags chars)
  unfold readRangeEnd at h
  split at h
  · cases h
  next after hskip =>
    split at h
    · exact hskip ▸ (isReader_singleItem flags first 0).suffix h
    · exact hskip ▸ ((isReader_rangeHigh flags first).suffix h).trans (List.suffix_cons _ _)
  next => exact (isReader_singleItem flags first 0).suffix h

/-- At the end of a class that is not closed, nothing of the closing has to be gone: the last item
may be a single one. -/
theorem isReader_readRangeEnd (flags : PatternFlags) (first : Primitive) :
    IsReader 3 (readRangeEnd flags first) where
  suffix := readRangeEnd_suffix
  follows chars := by
    have hsingle := isReader_singleItem flags first 3
    unfold readRangeEnd
    obtain hskip | ⟨hskip, hskip'⟩ := trails_skip flags chars
    · rw [hskip]
      rcases skip flags chars with _ | ⟨c, after⟩
      · refine .short fun set rest h => ?_
        exact Nat.lt_succ_of_le (hsingle.suffix h).length_le
      · by_cases hc : c = '-'
        · subst hc
          simp only [List.cons_append, peek_closing (by decide : ']' ≠ ')'),
            peek_closing (by decide : '-' ≠ ')')]
          split
          · exact hsingle.follows ('-' :: after)
          · exact ((isReader_rangeHigh flags first).mono (by decide)).follows after
        · simpa [hc] using hsingle.follows (c :: after)
    · rw [hskip, hskip']
      exact follows_none

/-- A boundary in braces is no item of a class. -/
theorem readRangeEnd_anchor (a : Anchor) (rest : List Char) :
    readRangeEnd flags (.anchor a) ('\x7b' :: rest) = none := by
  have hskip : skip flags ('\x7b' :: rest) = '\x7b' :: rest := by
    have hblank : Text.isBlank '\x7b' = false := by decide
    simp [skip, skipFrom, hblank]
  rw [readRangeEnd, hskip]
  rfl

theorem readClassRange_length_lt {chars rest : List Char} {set : CharSet}
    (h : readClassRange flags chars = some (set, rest)) : rest.length < chars.length := by
  rw [readClassRange_eq] at h
  obtain ⟨⟨item, rest'⟩, hitem, h⟩ := Option.bind_eq_some_iff.1 h
  exact Nat.lt_of_le_of_lt (readRangeEnd_suffix h).length_le (readClassItem_length_lt hitem)

theorem isReader_readClassRange (flags : PatternFlags) : IsReader 3 (readClassRange flags) where
  suffix {chars set rest} h := by
    rw [readClassRange_eq] at h
    obtain ⟨⟨item, rest'⟩, hitem, h⟩ := Option.bind_eq_some_iff.1 h
    exact (readRangeEnd_suffix h).trans (readClassItem_suffix hitem)
  follows chars := by
    rw [readClassRange_eq, readClassRange_eq]
    obtain hitem | ⟨hshort, a, rest, hlong, -⟩ := follows_readClassItem flags chars
    · exact (hitem.mono (by decide)).bind
        (fun item rest _ => (isReader_readRangeEnd flags item).follows rest)
        (fun item _ => (isReader_readRangeEnd flags item).follows_nil)
        fun item _ _ _ h => readRangeEnd_suffix h
    · rw [hshort, hlong, Option.bind_some, readRangeEnd_anchor]
      exact follows_none

/-! ### The beginning of a class -/

/-- The name of a class of ASCII, behind what negates it. -/
def readAsciiName (negative : Bool) (chars : List Char) :
    Option ((Bool × Text.CodeRanges) × List Char) :=
  let name := chars.takeWhile (· ≠ ':')
  match chars.drop name.length with
  | ':' :: ']' :: rest => do
    let (_, ranges) ← asciiClasses.find? (·.1 = String.ofList name)
    some ((negative, ranges), rest)
  | _ => none

theorem isReader_readAsciiName (negative : Bool) : IsReader 0 (readAsciiName negative) where
  suffix {chars a rest} h := by
    simp only [readAsciiName] at h
    split at h
    next rest' hdrop =>
      obtain ⟨found, -, h⟩ := Option.bind_eq_some_iff.1 h
      cases h
      have hsuffix : ':' :: ']' :: rest <:+ chars := hdrop ▸ List.drop_suffix _ _
      exact (List.suffix_append [':', ']'] rest).trans hsuffix
    next => cases h
  follows chars := by
    simp only [readAsciiName]
    obtain ⟨hshort, hlong⟩ | ⟨hname, rest, hshort, hlong⟩ :=
      drop_takeWhile_closing (by decide : ':' ∉ closing) chars
    · rw [hshort, hlong]
      exact follows_none
    · rw [hname, hshort, hlong]
      rcases rest with _ | ⟨c, rest⟩
      · exact follows_none
      · by_cases hc : c = ']'
        · subst hc
          cases asciiClasses.find? (·.1 = String.ofList (chars.takeWhile (· ≠ ':'))) with
          | none => exact follows_none
          | some found => exact .same _ _
        · simpa [hc] using follows_none

/-- A named class is that of its name, behind a colon and what may negate it. -/
theorem readAsciiClass_colon (chars : List Char) :
    paired (readAsciiClass (':' :: chars)) =
      if chars.head? = some '^' then readAsciiName true chars.tail
      else readAsciiName false chars := by
  have hname (negative : Bool) (rest : List Char) :
      paired (match rest.drop (rest.takeWhile (· ≠ ':')).length with
        | ':' :: ']' :: rest' => do
          let (_, ranges) ← asciiClasses.find? fun entry =>
            entry.1 = String.ofList (rest.takeWhile (· ≠ ':'))
          some (negative, ranges, rest')
        | _ => none) = readAsciiName negative rest := by
    simp only [readAsciiName]
    split
    · cases asciiClasses.find? fun entry =>
        entry.1 = String.ofList (rest.takeWhile (· ≠ ':')) <;> rfl
    · rfl
  rcases chars with _ | ⟨c, rest⟩
  · rfl
  by_cases hc : c = '^'
  · subst hc
    exact hname true rest
  · have hplain := readAsciiClass.eq_2 (c :: rest) fun _ heq => hc (List.cons.inj heq).1
    rw [List.head?_cons, if_neg (by simpa using hc)]
    exact (congrArg paired hplain).trans (hname false (c :: rest))

theorem isReader_readAsciiClass : IsReader 0 fun chars => paired (readAsciiClass chars) := by
  have hname := isReader_mark (by decide : '^' ≠ ')') (isReader_readAsciiName true)
    (isReader_readAsciiName false)
  refine (isReader_mark (by decide : ':' ≠ ')') hname isReader_none).of_eq fun chars => ?_
  rcases chars with _ | ⟨c, rest⟩
  · rfl
  by_cases hc : c = ':'
  · subst hc
    exact readAsciiClass_colon rest
  · simp [readAsciiClass, hc]

theorem readHyphens_suffix (flags : PatternFlags) (items : ClassItems) (chars : List Char) :
    (readHyphens flags items chars).2 <:+ chars := by
  induction chars generalizing items with
  | nil => exact List.suffix_rfl
  | cons c rest ih =>
    rw [readHyphens]
    split
    · exact (ih _).trans (List.suffix_cons c rest)
    · split
      · exact (ih _).trans (List.suffix_cons c rest)
      · exact skip_suffix flags (c :: rest)

theorem readHyphens_closing (flags : PatternFlags) (items : ClassItems) (chars : List Char) :
    (readHyphens flags items (chars ++ closing)).1 = (readHyphens flags items chars).1 ∧
      Trails (readHyphens flags items chars).2 (readHyphens flags items (chars ++ closing)).2 := by
  induction chars generalizing items with
  | nil => simp [readHyphens, closing, skip, skipFrom, Trails]
  | cons c rest ih =>
    simp only [List.cons_append, readHyphens]
    split
    · exact ih _
    · split
      · exact ih _
      · exact ⟨rfl, trails_skip flags (c :: rest)⟩

theorem isReader_readHyphens (flags : PatternFlags) (items : ClassItems) :
    IsReader 0 fun chars => some (readHyphens flags items chars) where
  suffix {chars a rest} h := by
    have hsuffix := readHyphens_suffix flags items chars
    rw [Option.some.inj h] at hsuffix
    exact hsuffix
  follows chars := by
    obtain ⟨hitems, hrest⟩ := readHyphens_closing flags items chars
    have hlong : readHyphens flags items (chars ++ closing) =
        ((readHyphens flags items chars).1, (readHyphens flags items (chars ++ closing)).2) :=
      Prod.ext hitems rfl
    rw [hlong]
    exact hrest.follows _

/-- The hyphens at the beginning of a class, and a bracket that stands for itself. -/
def readClassStart (flags : PatternFlags) (negative : Bool) (chars : List Char) :
    (Bool × ClassItems) × List Char :=
  let (items, rest) := readHyphens flags .none chars
  match rest with
  | ']' :: after =>
    if items.count = 0 then ((negative, items.add (.single ']') 0), skip flags after)
    else ((negative, items), rest)
  | _ => ((negative, items), rest)

theorem isReader_readClassStart (flags : PatternFlags) (negative : Bool) :
    IsReader 0 fun chars => some (readClassStart flags negative chars) := by
  have hbracket (items : ClassItems) : IsReader 0 fun chars =>
      if items.count = 0 then
        if chars.head? = some ']' then
          some ((negative, items.add (.single ']') 0), skip flags chars.tail)
        else some ((negative, items), chars)
      else some ((negative, items), chars) := by
    split
    · exact isReader_mark (by decide : ']' ≠ ')') ((isReader_some _).skip flags) (isReader_some _)
    · exact isReader_some _
  refine ((isReader_readHyphens flags .none).bind hbracket).of_eq fun chars => ?_
  rw [readClassStart, Option.bind_some]
  rcases readHyphens flags .none chars with ⟨items, _ | ⟨c, rest⟩⟩
  · by_cases hcount : items.count = 0 <;> simp [hcount]
  · by_cases hcount : items.count = 0 <;> by_cases hc : c = ']' <;> simp [hcount, hc]

theorem readClassOpening_eq (flags : PatternFlags) (chars : List Char) :
    (((readClassOpening flags chars).1, (readClassOpening flags chars).2.1),
      (readClassOpening flags chars).2.2) =
      if (skip flags chars).head? = some '^' then
        readClassStart flags true (skip flags (skip flags chars).tail)
      else readClassStart flags false (skip flags chars) := by
  rcases hskip : skip flags chars with _ | ⟨c, rest⟩
  · simp [readClassOpening, hskip, readClassStart, readHyphens]
  by_cases hc : c = '^'
  · subst hc
    rcases hhyphens : readHyphens flags .none (skip flags rest) with ⟨items, _ | ⟨d, after⟩⟩
    · simp [readClassOpening, hskip, readClassStart, hhyphens]
    · by_cases hd : d = ']' <;> by_cases hcount : items.count = 0 <;>
        simp [readClassOpening, hskip, readClassStart, hhyphens, hd, hcount]
  · rcases hhyphens : readHyphens flags .none (c :: rest) with ⟨items, _ | ⟨d, after⟩⟩
    · simp [readClassOpening, hskip, readClassStart, hhyphens, hc]
    · by_cases hd : d = ']' <;> by_cases hcount : items.count = 0 <;>
        simp [readClassOpening, hskip, readClassStart, hhyphens, hd, hcount, hc]

theorem isReader_readClassOpening (flags : PatternFlags) : IsReader 0 fun chars =>
    some (((readClassOpening flags chars).1, (readClassOpening flags chars).2.1),
      (readClassOpening flags chars).2.2) := by
  refine ((isReader_mark (by decide : '^' ≠ ')') ((isReader_readClassStart flags true).skip flags)
    (isReader_readClassStart flags false)).skip flags).of_eq fun chars => ?_
  rw [readClassOpening_eq]
  split <;> rfl

/-! ### The items of a class -/

/-- The operation that two equal marks stand for. -/
def readOperation : List Char → Option (SetOperation × List Char)
  | '&' :: '&' :: rest => some (.intersection, rest)
  | '-' :: '-' :: rest => some (.difference, rest)
  | '~' :: '~' :: rest => some (.symmetric, rest)
  | _ => none

theorem readOperation_suffix {chars rest : List Char} {operation : SetOperation}
    (h : readOperation chars = some (operation, rest)) : rest <:+ chars := by
  unfold readOperation at h
  split at h <;> cases h
  · exact List.suffix_append ['&', '&'] rest
  · exact List.suffix_append ['-', '-'] rest
  · exact List.suffix_append ['~', '~'] rest

theorem readOperation_length_lt {chars rest : List Char} {operation : SetOperation}
    (h : readOperation chars = some (operation, rest)) : rest.length < chars.length := by
  unfold readOperation at h
  split at h <;> cases h <;> exact Nat.lt_succ_of_lt (Nat.lt_succ_self _)

theorem isReader_readOperation : IsReader 0 readOperation where
  suffix := readOperation_suffix
  follows chars := by
    rcases chars with _ | ⟨c, _ | ⟨d, rest⟩⟩
    · exact follows_none
    · have hnone (rest : List Char) (hrest : rest.head? ≠ some c) :
          readOperation (c :: rest) = none := by
        unfold readOperation
        split
        next heq =>
          cases heq
          exact absurd rfl hrest
        next heq =>
          cases heq
          exact absurd rfl hrest
        next heq =>
          cases heq
          exact absurd rfl hrest
        next => rfl
      by_cases hc : c = ')'
      · subst hc
        exact follows_none
      · rw [hnone [] nofun, List.cons_append, List.nil_append,
          hnone closing (by simpa [closing] using Ne.symm hc)]
        exact follows_none
    · unfold readOperation
      split
      next heq =>
        cases heq
        exact .same _ _
      next heq =>
        cases heq
        exact .same _ _
      next heq =>
        cases heq
        exact .same _ _
      next hand hhyphen htilde =>
        split
        next heq =>
          cases heq
          exact absurd rfl (hand rest)
        next heq =>
          cases heq
          exact absurd rfl (hhyphen rest)
        next heq =>
          cases heq
          exact absurd rfl (htilde rest)
        next => exact follows_none

/-- What is read of a class so far: a set with an operation behind it, and items. -/
abbrev ClassState := PendingSet × ClassItems

/-- The set of a named class. Characters are matched, unless the flag is cleared that allows it. -/
def namedSet (flags : PatternFlags) (named : Bool × Text.CodeRanges) : Option CharSet :=
  if named.1 && !flags.unicode then none
  else some (signed named.1 (foldSet flags (.ranges named.2)))

/-- What reads the items of a class that was opened, with nothing but its hyphens before them. -/
abbrev ClassReader := Bool × ClassItems → List Char → Option ((CharSet × Nat) × List Char)

/-- What stands behind a bracket in a class: a named class, or one that is read by `inner`. -/
def readNested (flags : PatternFlags) (inner : ClassReader) (state : ClassState)
    (chars : List Char) : Option (ClassState × List Char) :=
  match paired (readAsciiClass chars) with
  | some (named, rest) =>
    ((namedSet flags named).map fun set => (state.1, state.2.add set 0)).map fun state =>
      (state, rest)
  | none =>
    let (negative, items, rest) := readClassOpening flags chars
    (inner (negative, items) rest).map fun result =>
      ((state.1, state.2.add result.1.1 result.1.2), result.2)

/-- One step in a class that is not at its end. -/
def classStep (flags : PatternFlags) (inner : ClassReader) (state : ClassState)
    (chars : List Char) : Option (ClassState × List Char) :=
  if chars.head? = some '[' then readNested flags inner state chars.tail
  else match readOperation chars with
    | some (operation, rest) =>
      let (set, depth) := closeSet flags state.1 state.2
      some ((some (set, depth, operation), .none), rest)
    | none => (readClassRange flags chars).map fun result =>
      ((state.1, state.2.add result.1 0), result.2)

/-- The end of a class. -/
def closeClass (flags : PatternFlags) (negative : Bool) (state : ClassState) :
    Option (CharSet × Nat) :=
  let (set, depth) := closeSet flags state.1 state.2
  let set := signed negative (foldSet flags set)
  if flags.unicode || set.isAscii then some (set, depth + 1) else none

/-- What stands behind a part of a class that was read. -/
def readClassRest (flags : PatternFlags) (fuel : Nat) (negative : Bool) (state : ClassState)
    (chars : List Char) : Option ((CharSet × Nat) × List Char) :=
  paired (readClassBody flags negative fuel state.1 state.2 chars)

/-- What stands behind the beginning of a class. -/
def readInner (flags : PatternFlags) (fuel : Nat) : ClassReader := fun opening =>
  readClassRest flags fuel opening.1 (none, opening.2)

/-- A class is at its end, or there is one step more to go. -/
theorem readClassRest_succ (fuel : Nat) (negative : Bool) (state : ClassState)
    (chars : List Char) : readClassRest flags (fuel + 1) negative state chars =
      if (skip flags chars).head? = some ']' then
        (closeClass flags negative state).map fun result => (result, (skip flags chars).tail)
      else (classStep flags (readInner flags fuel) state (skip flags chars)).bind fun result =>
        readClassRest flags fuel negative result.1 result.2 := by
  obtain ⟨pending, items⟩ := state
  rw [readClassRest, readClassBody]
  generalize skip flags chars = text
  rcases text with _ | ⟨c, rest⟩
  · rfl
  by_cases hclose : c = ']'
  · subst hclose
    rw [List.head?_cons, if_pos rfl, List.tail_cons]
    simp only [closeClass, paired]
    split <;> rfl
  by_cases hopen : c = '['
  · subst hopen
    rw [List.head?_cons, if_neg (by decide), classStep, List.head?_cons, if_pos rfl, List.tail_cons,
      readNested]
    dsimp only
    rcases hascii : readAsciiClass rest with _ | ⟨negated, ranges, after⟩
    · rcases hinner : readClassBody flags (readClassOpening flags rest).1 fuel none
        (readClassOpening flags rest).2.1 (readClassOpening flags rest).2.2
        with _ | ⟨set, depth, after⟩
      · simp [hinner, hascii, readInner, readClassRest]
      · simp [hinner, hascii, readInner, readClassRest]
    · by_cases hnegated : (negated && !flags.unicode) = true
      · simp [hnegated, namedSet, hascii]
      · simp [hnegated, namedSet, hascii, readClassRest]
  rw [List.head?_cons, if_neg (by simpa using hclose), classStep, List.head?_cons,
    if_neg (by simpa using hopen)]
  split
  next heq => cases heq
  next heq => exact absurd (List.cons.inj heq).1 hclose
  next heq => exact absurd (List.cons.inj heq).1 hopen
  next heq =>
    rw [heq]
    rfl
  next heq =>
    rw [heq]
    rfl
  next heq =>
    rw [heq]
    rfl
  next hand hhyphen htilde =>
    have hnone : readOperation (c :: rest) = none := by
      unfold readOperation
      split
      next heq => exact absurd heq (hand _)
      next heq => exact absurd heq (hhyphen _)
      next heq => exact absurd heq (htilde _)
      next => rfl
    rw [hnone]
    rcases readClassRange flags (c :: rest) with _ | ⟨set, after⟩ <;> rfl

/-! ### Whole classes -/

section suffix

variable {inner : ClassReader} {state state' : ClassState} {chars rest : List Char}
  (hinner : ∀ opening chars a rest, inner opening chars = some (a, rest) → rest <:+ chars)

include hinner

theorem readNested_suffix (h : readNested flags inner state chars = some (state', rest)) :
    rest <:+ chars := by
  unfold readNested at h
  split at h
  next named rest' hascii =>
    obtain ⟨_, -, heq⟩ := Option.map_eq_some_iff.1 h
    cases heq
    exact isReader_readAsciiClass.suffix hascii
  next =>
    obtain ⟨⟨found, rest'⟩, hfound, heq⟩ := Option.map_eq_some_iff.1 h
    cases heq
    exact (hinner _ _ _ _ hfound).trans ((isReader_readClassOpening flags).suffix rfl)

theorem classStep_suffix (h : classStep flags inner state chars = some (state', rest)) :
    rest <:+ chars := by
  unfold classStep at h
  split at h
  · exact (readNested_suffix hinner h).trans (List.tail_suffix chars)
  · split at h
    next operation rest' hoperation =>
      cases h
      exact readOperation_suffix hoperation
    next =>
      obtain ⟨⟨set, rest'⟩, hrange, heq⟩ := Option.map_eq_some_iff.1 h
      cases heq
      exact (isReader_readClassRange flags).suffix hrange

/-- A step takes something, so that the fuel of a class is enough. -/
theorem classStep_length_lt (h : classStep flags inner state chars = some (state', rest)) :
    rest.length < chars.length := by
  unfold classStep at h
  split at h
  next hopen =>
    obtain ⟨chars, rfl⟩ := List.head?_eq_some_iff.1 hopen
    exact Nat.lt_succ_of_le (readNested_suffix hinner h).length_le
  next =>
    split at h
    next operation rest' hoperation =>
      cases h
      exact readOperation_length_lt hoperation
    next =>
      obtain ⟨⟨set, rest'⟩, hrange, heq⟩ := Option.map_eq_some_iff.1 h
      cases heq
      exact readClassRange_length_lt hrange

end suffix

theorem readClassRest_suffix {fuel : Nat} {negative : Bool} {state : ClassState}
    {chars rest : List Char} {a : CharSet × Nat}
    (h : readClassRest flags fuel negative state chars = some (a, rest)) : rest <:+ chars := by
  induction fuel generalizing negative state chars rest a with
  | zero => cases h
  | succ fuel ih =>
    rw [readClassRest_succ] at h
    refine List.IsSuffix.trans ?_ (skip_suffix flags chars)
    split at h
    · obtain ⟨_, -, heq⟩ := Option.map_eq_some_iff.1 h
      cases heq
      exact List.tail_suffix _
    · obtain ⟨⟨state', rest'⟩, hstep, h⟩ := Option.bind_eq_some_iff.1 h
      exact (ih h).trans (classStep_suffix (fun _ _ _ _ hinner => ih hinner) hstep)

theorem readInner_suffix (fuel : Nat) (opening : Bool × ClassItems) (chars : List Char)
    (a : CharSet × Nat) (rest : List Char)
    (h : readInner flags fuel opening chars = some (a, rest)) : rest <:+ chars :=
  readClassRest_suffix h

/-- A class without a closing bracket is refused. -/
theorem readClassRest_eq_none {fuel : Nat} {negative : Bool} {state : ClassState}
    {chars : List Char} (h : ']' ∉ chars) :
    readClassRest flags fuel negative state chars = none := by
  induction fuel generalizing negative state chars with
  | zero => rfl
  | succ fuel ih =>
    have hskip : ']' ∉ skip flags chars := fun hmem => h ((skip_suffix flags chars).mem hmem)
    have hhead : (skip flags chars).head? ≠ some ']' := fun hhead =>
      hskip (List.mem_of_head? hhead)
    rw [readClassRest_succ, if_neg hhead, Option.bind_eq_none_iff]
    rintro ⟨state', rest⟩ hstep
    have hrest : rest <:+ skip flags chars := classStep_suffix (readInner_suffix fuel) hstep
    exact ih fun hmem => hskip (hrest.mem hmem)

section follows

variable {inner inner' : ClassReader} {chars : List Char} (state : ClassState)
  (hsuffix : ∀ opening chars a rest, inner' opening chars = some (a, rest) → rest <:+ chars)
  (hnil : ∀ opening, Follows 0 (inner opening []) (inner' opening []))

include hsuffix hnil

theorem follows_readNested
    (hinner : ∀ opening rest, rest.length ≤ chars.length →
      Follows 0 (inner opening rest) (inner' opening (rest ++ closing))) :
    Follows 0 (readNested flags inner state chars)
      (readNested flags inner' state (chars ++ closing)) := by
  have hopening := ((isReader_readClassOpening flags).follows chars).bind
    (fun opening rest hrest => hinner opening rest
      ((isReader_readClassOpening flags).suffix hrest).length_le)
    (fun opening _ => hnil opening) hsuffix
  have hascii := isReader_readAsciiClass.follows chars
  unfold readNested
  generalize paired (readAsciiClass chars) = short at hascii ⊢
  generalize paired (readAsciiClass (chars ++ closing)) = long at hascii ⊢
  cases hascii with
  | same named rest => exact (isReader_option _).follows rest
  | commented named => exact (isReader_option _).follows_nil
  | short h =>
    rw [(Follows.short h).eq_none]
    exact hopening.map fun found => (state.1, state.2.add found.1 found.2)

theorem follows_classStep
    (hinner : ∀ opening rest, rest.length < chars.length →
      Follows 0 (inner opening rest) (inner' opening (rest ++ closing))) :
    Follows 3 (classStep flags inner state chars)
      (classStep flags inner' state (chars ++ closing)) := by
  have hopen : (chars ++ closing).head? = some '[' ↔ chars.head? = some '[' := by
    cases chars <;> simp [closing]
  unfold classStep
  by_cases hhead : chars.head? = some '['
  · rw [if_pos hhead, if_pos (hopen.2 hhead)]
    obtain ⟨rest, rfl⟩ := List.head?_eq_some_iff.1 hhead
    exact (follows_readNested state hsuffix hnil fun opening rest' hle =>
      hinner opening rest' (Nat.lt_succ_of_le hle)).mono (Nat.zero_le 3)
  · rw [if_neg hhead, if_neg (mt hopen.1 hhead)]
    have hoperation := isReader_readOperation.follows chars
    generalize readOperation chars = short at hoperation ⊢
    generalize readOperation (chars ++ closing) = long at hoperation ⊢
    cases hoperation with
    | same operation rest => exact .same _ rest
    | commented operation => exact .commented _
    | short h =>
      rw [(Follows.short h).eq_none]
      exact ((isReader_readClassRange flags).follows chars).map fun set =>
        (state.1, state.2.add set 0)

end follows

theorem follows_readClassRest_nil (fuel fuel' : Nat) (negative : Bool) (state : ClassState) :
    Follows 0 (readClassRest flags fuel negative state [])
      (readClassRest flags fuel' negative state []) := by
  rw [readClassRest_eq_none List.not_mem_nil, readClassRest_eq_none List.not_mem_nil]
  exact follows_none

/-- A class is read in the same way with the closing behind it, and not at all if that is needed to
go on. The two fuels need not be the same, since both texts are read with their own lengths. -/
theorem follows_readClassRest {fuel fuel' : Nat} {negative : Bool} {state : ClassState}
    {chars : List Char} (hfuel : chars.length < fuel) (hfuel' : chars.length < fuel') :
    Follows 0 (readClassRest flags fuel negative state chars)
      (readClassRest flags fuel' negative state (chars ++ closing)) := by
  induction fuel generalizing fuel' negative state chars with
  | zero => exact absurd hfuel (Nat.not_lt_zero _)
  | succ fuel ih =>
    cases fuel' with
    | zero => exact absurd hfuel' (Nat.not_lt_zero _)
    | succ fuel' =>
      rw [readClassRest_succ, readClassRest_succ]
      obtain hskip | ⟨hskip, hskip'⟩ := trails_skip flags chars
      · have hlen := (skip_suffix flags chars).length_le
        rw [hskip]
        generalize skip flags chars = text at hlen ⊢
        by_cases hclose : text.head? = some ']'
        · obtain ⟨rest, rfl⟩ := List.head?_eq_some_iff.1 hclose
          exact (isReader_option (closeClass flags negative state)).follows rest
        · have hclose' : (text ++ closing).head? ≠ some ']' := by
            cases text <;> simp_all [closing]
          have hstep : Follows 3 (classStep flags (readInner flags fuel) state text)
              (classStep flags (readInner flags fuel') state (text ++ closing)) :=
            follows_classStep state (readInner_suffix fuel')
              (fun opening => follows_readClassRest_nil fuel fuel' opening.1 (none, opening.2))
              fun opening rest hrest => ih (by omega) (by omega)
          rw [if_neg hclose, if_neg hclose']
          -- the bound sinks from three to zero: a step may leave the closing, but the class cannot
          -- end in it
          refine hstep.bindWith (fun state rest hstep => ?_)
            (fun state _ => follows_readClassRest_nil fuel fuel' negative state)
            fun state rest b rest' hstep hrest hnext => ?_
          · have hlt := classStep_length_lt (readInner_suffix fuel) hstep
            exact ih (by omega) (by omega)
          · -- the step took all but the closing, which closes no class
            have hsuffix :=
              closing_of_suffix (classStep_suffix (readInner_suffix fuel') hstep) hrest
            have hmem : ']' ∉ rest := fun hmem => by simpa [closing] using hsuffix.mem hmem
            rw [readClassRest_eq_none hmem] at hnext
            cases hnext
      · -- both texts end in a comment, in which no bracket closes the class
        rw [hskip, hskip']
        exact follows_none

/-- The fuel that a class is given is more than what is left to read. -/
theorem isReader_readInner (flags : PatternFlags) (opening : Bool × ClassItems) :
    IsReader 0 fun chars => readInner flags (chars.length + 1) opening chars where
  suffix h := readClassRest_suffix h
  follows chars := follows_readClassRest (Nat.lt_succ_self _) (by rw [List.length_append]; omega)

/-- A class is read in the same way with the closing behind it. -/
theorem isReader_readClass (flags : PatternFlags) :
    IsReader 0 fun chars => paired (readClass flags chars) :=
  ((isReader_readClassOpening flags).bind (isReader_readInner flags)).of_eq fun _ => rfl

end Pattern

end Assessment
