import Assessment.Evaluation.Operation
import Assessment.Proofs.Pattern.Match
import Assessment.Proofs.Pattern.Sequence
import Assessment.Validation.Basic

/-!
# Matching whole texts

A pattern is matched with a whole text by reading its own text in a group between two anchors. If it
is a pattern by itself and does not end in a comment, this is the pattern between the anchors, as
long as that is not nested too deeply and not too large. If it is none, then it is refused, unless a
closing parenthesis of its own closes the group: what stands behind that is read outside of it. So
`a)|(?:b` is no pattern and yet matches all texts that begin with the one letter or end with the
other.

Evaluation and validation read patterns in the same way. So validation finds fault with a pattern if
evaluation fails with it, whatever the text is.

## Main definitions

- `Pattern.ClosesEarly`: a text closes a group that it has not opened.
- `Pattern.EndsInComment`: a text goes on with a comment at its end.
- `Pattern.Stands`: a text is a pattern by itself and between the anchors.

## Main results

- `Pattern.proper_of_readRest`: the bounds of all repetitions in a pattern are in order.
- `Pattern.room_le_room_whole`: a pattern takes no more room than it takes between the anchors.
- `Pattern.readWhole_eq_ok_iff`: when a pattern is read between the anchors, and which one it is.
- `Pattern.ClosesEarly.read_ne_ok`: a text that closes the group itself is no pattern.
- `Operator.patternMatch_exact`: what evaluation and validation make of a pattern.
-/

namespace Assessment

/-! ### The bounds of repetitions -/

namespace Pattern

variable {flags : PatternFlags} {state state' : SequenceState} {chars rest : List Char}

/-- The bounds of a repetition are in order. -/
def Repetition.InOrder (repetition : Repetition) : Prop :=
  ∀ bound ∈ repetition.greatest, repetition.least ≤ bound

theorem inOrder_readLazy {least : Nat} {greatest : Option Nat}
    (h : ∀ bound ∈ greatest, least ≤ bound) (chars : List Char) :
    (readLazy least greatest chars).1.InOrder := by
  unfold readLazy
  split <;> exact h

/-- Bounds in braces are in order. -/
theorem readBounds_le {repetition : Repetition}
    (h : readBounds flags chars = some (repetition, rest)) : repetition.InOrder := by
  obtain ⟨⟨least, after⟩, -, h⟩ := Option.bind_eq_some_iff.1 h
  dsimp only at h
  have hlazy {greatest : Option Nat} {chars : List Char} (hle : ∀ bound ∈ greatest, least ≤ bound)
      (h : some (readLazy least greatest chars) = some (repetition, rest)) :
      repetition.InOrder := by
    have horder := inOrder_readLazy hle chars
    rwa [Option.some.inj h] at horder
  split at h
  · exact hlazy (by simp) h
  · split at h
    · exact hlazy (by simp) h
    · obtain ⟨⟨greatest, last⟩, -, h⟩ := Option.bind_eq_some_iff.1 h
      dsimp only at h
      split at h
      · split at h
        next hle => exact hlazy (by simpa using hle) h
        next => cases h
      · cases h
  · cases h

/-! ### Sequences and alternatives -/

theorem allProper_iff {patterns : List Pattern} :
    AllProper patterns ↔ ∀ pattern ∈ patterns, Proper pattern := by
  induction patterns with
  | nil => simp [AllProper]
  | cons pattern rest ih => simp [AllProper, ih]

/-- All that was read so far is done with bounds in order. -/
structure SequenceState.IsProper (state : SequenceState) : Prop where
  /-- The alternatives before the current one. -/
  done : ∀ pattern ∈ state.done, Proper pattern
  /-- The items of the current alternative. -/
  items : ∀ pattern, some pattern ∈ state.items → Proper pattern

theorem proper_sequenceOf {items : Items} (h : ∀ pattern, some pattern ∈ items → Proper pattern) :
    Proper (sequenceOf items) := by
  have hall : ∀ pattern ∈ items.reverse.map (·.getD .empty), Proper pattern := by
    intro pattern hmem
    obtain ⟨item, hitem, rfl⟩ := List.mem_map.1 hmem
    cases item with
    | none => trivial
    | some pattern => exact h pattern (List.mem_reverse.1 hitem)
  unfold sequenceOf
  split
  · trivial
  next pattern heq => exact hall pattern (by simp [heq])
  next => exact allProper_iff.2 hall

theorem SequenceState.IsProper.result (h : state.IsProper) : Proper state.result.1 := by
  have hlast := proper_sequenceOf h.items
  rw [SequenceState.result, choiceOf]
  split
  · exact hlast
  · refine allProper_iff.2 fun pattern hmem => ?_
    obtain hmem | hmem := List.mem_append.1 hmem
    · exact h.done pattern (List.mem_reverse.1 hmem)
    · exact List.mem_singleton.1 hmem ▸ hlast

theorem SequenceState.isProper_start (flags : PatternFlags) (names : List String) :
    (start flags names).IsProper := ⟨nofun, nofun⟩

theorem SequenceState.IsProper.add {pattern : Option Pattern} (h : state.IsProper)
    (hpattern : ∀ p ∈ pattern, Proper p) (hadd : state.add pattern = some state') :
    state'.IsProper := by
  obtain ⟨pattern, rfl, rfl⟩ := Option.map_eq_some_iff.1 hadd
  refine ⟨h.done, fun p hmem => ?_⟩
  obtain heq | hmem := List.mem_cons.1 hmem
  · exact Option.some.inj heq ▸ hpattern pattern rfl
  · exact h.items p hmem

theorem SequenceState.IsProper.readRepetition {bounds : Option (Repetition × List Char)}
    (h : state.IsProper) (hbounds : ∀ result ∈ bounds, result.1.InOrder)
    (hread : readRepetition state bounds = some (state', rest)) : state'.IsProper := by
  obtain ⟨⟨repetition, after⟩, hrepetition, hread⟩ := Option.bind_eq_some_iff.1 hread
  obtain ⟨_, hrepeat, heq⟩ := Option.map_eq_some_iff.1 hread
  cases heq
  obtain ⟨items, hitems, rfl⟩ := Option.map_eq_some_iff.1 hrepeat
  unfold repeatLast? at hitems
  split at hitems
  next pattern before hstate =>
    cases hitems
    refine ⟨h.done, fun p hmem => ?_⟩
    have hmem' : some pattern ∈ state.items := by simp [hstate]
    obtain heq | hmem := List.mem_cons.1 hmem
    · cases heq
      exact ⟨h.items pattern hmem', hbounds _ hrepetition⟩
    · exact h.items p (by simp [hstate, hmem])
  next => cases hitems

theorem proper_literal {c : Char} {byte : Bool} :
    ∀ pattern ∈ literal? flags c byte, Proper pattern := by
  intro pattern h
  unfold literal? at h
  split at h
  · cases h
    trivial
  · split at h <;> cases h
    trivial

theorem proper_dot : ∀ pattern ∈ dot? flags, Proper pattern := by
  intro pattern h
  unfold dot? at h
  split at h
  · cases h
  · split at h
    · cases h
      trivial
    · split at h <;> cases h <;> trivial

theorem proper_ofPrimitive {primitive : Primitive} :
    ∀ pattern ∈ ofPrimitive? flags primitive, Proper pattern := by
  intro pattern h
  cases primitive with
  | literal c byte => exact proper_literal pattern h
  | set set =>
    cases h
    trivial
  | anchor a =>
    cases h
    trivial

/-! ### What steps keep in order -/

section step

variable {inner : GroupReader}
  (hinner : ∀ opened chars a rest, inner opened chars = some (a, rest) → Proper a.1)
  (h : state.IsProper)

include hinner h

theorem isProper_of_readGroup {opening : Opening}
    (hgroup : readGroup inner state opening chars = some (state', rest)) : state'.IsProper := by
  cases opening with
  | flags flags =>
    cases hgroup
    exact ⟨h.done, fun p hmem => h.items p (by simpa using hmem)⟩
  | group flags captures name =>
    rw [readGroup] at hgroup
    split at hgroup
    · cases hgroup
    · obtain ⟨⟨result, after⟩, hresult, hgroup⟩ := Option.bind_eq_some_iff.1 hgroup
      obtain ⟨closed, -, heq⟩ := Option.map_eq_some_iff.1 hgroup
      cases heq
      refine ⟨h.done, fun p hmem => ?_⟩
      obtain heq | hmem := List.mem_cons.1 hmem
      · cases heq
        exact hinner _ _ _ _ hresult
      · exact h.items p hmem

theorem isProper_of_sequenceStep {c : Char}
    (hstep : sequenceStep inner state c chars = some (state', rest)) : state'.IsProper := by
  have hadd {pattern : Option Pattern} {after : List Char} (hpattern : ∀ p ∈ pattern, Proper p)
      (hstep : (state.add pattern).map (fun state => (state, after)) = some (state', rest)) :
      state'.IsProper := by
    obtain ⟨_, hadded, heq⟩ := Option.map_eq_some_iff.1 hstep
    cases heq
    exact h.add hpattern hadded
  have hmark {least : Nat} {greatest : Option Nat} (hle : ∀ bound ∈ greatest, least ≤ bound)
      (hstep : readRepetition state (some (readLazy least greatest chars)) = some (state', rest)) :
      state'.IsProper :=
    h.readRepetition (by simpa using inOrder_readLazy hle chars) hstep
  unfold sequenceStep at hstep
  split at hstep
  case h_1 =>
    cases hstep
    refine ⟨fun p hmem => ?_, nofun⟩
    obtain rfl | hmem := List.mem_cons.1 hmem
    · exact proper_sequenceOf h.items
    · exact h.done p hmem
  case h_2 =>
    obtain ⟨⟨opening, after⟩, -, hgroup⟩ := Option.bind_eq_some_iff.1 hstep
    exact isProper_of_readGroup hinner h hgroup
  case h_3 => exact hmark (by simp) hstep
  case h_4 => exact hmark (by simp) hstep
  case h_5 => exact hmark (by simp) hstep
  case h_6 => exact h.readRepetition (fun result hresult => readBounds_le hresult) hstep
  case h_7 =>
    obtain ⟨⟨found, after⟩, -, hstep⟩ := Option.bind_eq_some_iff.1 hstep
    exact hadd (by simp [Proper]) hstep
  case h_8 => exact hadd proper_dot hstep
  case h_9 => exact hadd (by simp [Proper]) hstep
  case h_10 => exact hadd (by simp [Proper]) hstep
  case h_11 =>
    obtain ⟨⟨primitive, after⟩, -, hstep⟩ := Option.bind_eq_some_iff.1 hstep
    exact hadd proper_ofPrimitive hstep
  case h_12 => exact hadd proper_literal hstep

end step

/-- The bounds of all repetitions in a pattern that is read are in order. -/
theorem proper_of_readRest {fuel : Nat} {a : Pattern × List String} (h : state.IsProper)
    (hread : readRest fuel state chars = some (a, rest)) : Proper a.1 := by
  induction fuel generalizing state chars rest a with
  | zero => cases hread
  | succ fuel ih =>
    rw [readRest_succ] at hread
    split at hread
    next =>
      cases hread
      exact h.result
    next =>
      split at hread
      · cases hread
        exact h.result
      · obtain ⟨⟨state', rest'⟩, hstep, hread⟩ := Option.bind_eq_some_iff.1 hread
        refine ih (isProper_of_sequenceStep (fun opened chars a rest hinner => ?_) h hstep) hread
        exact ih (SequenceState.isProper_start opened.1 opened.2) hinner

end Pattern

/-! ### The room between the anchors -/

namespace Layout

variable (backwards : Bool)

theorem total_append (first second : List Nat) :
    total (first ++ second) = total first + total second := by
  rw [total, total, total, ← List.sum_eq_foldl, ← List.sum_eq_foldl, ← List.sum_eq_foldl,
    List.sum_append]

theorem totalRoom_append (first second : List Layout) :
    totalRoom backwards (first ++ second) =
      totalRoom backwards first + totalRoom backwards second := by
  induction first with
  | nil => simp [totalRoom]
  | cons part rest ih => simp [totalRoom, ih, Nat.add_assoc]

/-- Texts that follow one another take the same room as one. -/
theorem totalRoom_joinTexts (parts : List Layout) :
    totalRoom backwards (joinTexts parts) = totalRoom backwards parts := by
  induction parts with
  | nil => rfl
  | cons part rest ih =>
    rw [totalRoom, ← ih]
    -- only the first call, or the rest of the texts would be unfolded as well
    conv_lhs => unfold joinTexts
    split
    next codes more rest' hrest =>
      simp [hrest, totalRoom, room, total_append, Nat.mul_add, Nat.add_assoc]
    next => rfl

theorem room_le_totalRoom_steps (part : Layout) :
    room backwards part ≤ totalRoom backwards (steps part) + stateRoom := by
  cases part <;> simp [steps, totalRoom, room]

/-- The parts of a sequence take all its room. -/
theorem totalRoom_le_room_ofSequence (parts : List Layout) :
    totalRoom backwards (parts.flatMap steps) ≤ room backwards (ofSequence parts) := by
  rw [← totalRoom_joinTexts, ofSequence]
  split
  next heq => simp [heq, totalRoom]
  next heq => simp [heq, totalRoom]
  next => rw [room]

end Layout

namespace Pattern

theorem depth_whole (pattern : Pattern) : (whole pattern).depth = pattern.depth + 2 := by
  simp [whole, depth, greatestDepth]

/-- A pattern takes no more room than it takes between the anchors. -/
theorem room_le_room_whole (pattern : Pattern) : pattern.room ≤ (whole pattern).room := by
  have hlayout (backwards : Bool) :
      (layout pattern).room backwards ≤ (layout (whole pattern)).room backwards := by
    have hsteps := Layout.room_le_totalRoom_steps backwards (layout pattern)
    have hwhole := Layout.totalRoom_le_room_ofSequence backwards
      [.anchor .textStart, layout pattern, .anchor .textEnd]
    have hanchor (a : Anchor) : Layout.steps (.anchor a) = [.anchor a] := rfl
    simp only [List.flatMap_cons, List.flatMap_nil, Layout.totalRoom_append, hanchor,
      Layout.totalRoom, Layout.room] at hwhole
    simp only [whole, layout, layouts]
    omega
  have hforwards := hlayout false
  have hbackwards := hlayout true
  simp only [room]
  omega

/-! ### Texts between the anchors -/

variable {text : String} {pattern : Pattern}

/-- What is read of a text, and what is left of it. -/
def parse (text : String) : Option ((Pattern × List String) × List Char) :=
  readRest (text.length + 1) (.start noFlags []) text.toList

/-- A text closes a group that it has not opened. -/
def ClosesEarly (text : String) : Prop := ∃ result rest, parse text = some (result, ')' :: rest)

/-- A text goes on with a comment at its end: what is put behind it is not seen. -/
def EndsInComment (text : String) : Prop :=
  ∃ result, parse text = some (result, []) ∧ parse (text ++ ")$") = some (result, [])

/-- A text is a pattern by itself, and it can stand between the anchors: nothing behind it is taken
for a comment, and the pattern is not nested too deeply and not too large there. -/
structure Stands (text : String) (pattern : Pattern) : Prop where
  /-- The text is the pattern by itself. -/
  read : read text = .ok pattern
  /-- What stands behind it is seen. -/
  closes : ¬ EndsInComment text
  /-- It is not nested too deeply between the anchors. -/
  depth : (whole pattern).depth ≤ maxDepth
  /-- It is not too large between the anchors. -/
  room : (whole pattern).room ≤ maxRoom

theorem read_eq_ok_iff : read text = .ok pattern ↔
    (∃ names, parse text = some ((pattern, names), [])) ∧
      pattern.depth ≤ maxDepth ∧ pattern.room ≤ maxRoom := by
  rw [Pattern.read, parse, readRest]
  dsimp only [SequenceState.start]
  rcases readSequence (text.length + 1) noFlags [] [] [] text.toList with
    _ | ⟨found, names, _ | ⟨c, rest⟩⟩
  · simp
  · have hok : (if maxDepth < found.depth then Except.error .illFormed
        else if maxRoom < found.room then .error .tooLarge else .ok found) =
          (.ok pattern : Except PatternError Pattern) ↔
        found = pattern ∧ found.depth ≤ maxDepth ∧ found.room ≤ maxRoom := by
      split
      next hdepth => simp [Nat.not_le_of_lt hdepth]
      next hdepth =>
        split
        next hroom => simp [Nat.not_le_of_lt hroom]
        next hroom => simp [Nat.le_of_not_lt hdepth, Nat.le_of_not_lt hroom]
    dsimp only
    rw [hok, paired_some]
    constructor
    · rintro ⟨rfl, hlimits⟩
      exact ⟨⟨names, rfl⟩, hlimits⟩
    · rintro ⟨⟨_, heq⟩, hlimits⟩
      cases heq
      exact ⟨rfl, hlimits⟩
  · simp

theorem toList_closing (text : String) : (text ++ ")$").toList = text.toList ++ closing := by
  simp [closing]

theorem length_closing (text : String) : (text ++ ")$").length = text.length + 2 := by
  rw [String.length_append]
  rfl

/-- Between the anchors a text is read with the closing behind it. -/
theorem parse_between (text : String) : parse ("^(?:" ++ text ++ ")$") =
    (parse (text ++ ")$")).bind fun result => (readParen result.2).bind fun closed =>
      readRest (text.length + 5)
        ⟨noFlags, result.1.2, [], [some (.group false result.1.1), some (.anchor .textStart)]⟩
        closed.2 := by
  have hfuel : parse (text ++ ")$") =
      readRest (text.length + 5) (.start noFlags []) (text.toList ++ closing) := by
    rw [parse, toList_closing, length_closing]
    refine readRest_fuel ?_ ?_ <;> simp [closing, String.length_toList]
  have hlength : ("^(?:" ++ text ++ ")$").length + 1 = text.length + 5 + 1 + 1 := by
    rw [length_closing, String.length_append, Nat.add_comm "^(?:".length]
    rfl
  have hchars : ("^(?:" ++ text ++ ")$").toList =
      '^' :: '(' :: '?' :: ':' :: (text.toList ++ closing) := by
    simp [closing]
  -- two steps: the anchor is the first item, and the marks of the group go with its parenthesis
  have hopening (chars : List Char) : readOpening noFlags ('?' :: ':' :: chars) =
      some (.group noFlags false none, chars) := rfl
  rw [hfuel, parse, hlength, hchars, readRest_succ]
  change readRest (text.length + 5 + 1) ⟨noFlags, [], [], [some (.anchor .textStart)]⟩
    ('(' :: '?' :: ':' :: (text.toList ++ closing)) = _
  rw [readRest_succ]
  change (sequenceStep _ _ '(' ('?' :: ':' :: (text.toList ++ closing))).bind _ = _
  rw [sequenceStep, hopening, Option.bind_some, readGroup, if_neg (by simp), Option.bind_assoc]
  refine Option.bind_congr fun result _ => ?_
  rw [Option.bind_map]
  rfl

theorem follows_parse (text : String) : Follows 2 (parse text) (parse (text ++ ")$")) := by
  rw [parse, parse, toList_closing, length_closing]
  refine follows_readRest ?_ ?_ <;> rw [String.length_toList] <;> omega

/-- The closing ends the group and adds the anchor of the end. -/
theorem parse_between_of_closing {names : List String}
    (h : parse (text ++ ")$") = some ((pattern, names), closing)) :
    parse ("^(?:" ++ text ++ ")$") = some ((whole pattern, names), []) := by
  rw [parse_between, h]
  rfl

/-- A pattern that can stand between the anchors is read there. -/
theorem Stands.readWhole (h : Stands text pattern) : readWhole text = .ok (whole pattern) := by
  obtain ⟨⟨names, hparse⟩, -⟩ := read_eq_ok_iff.1 h.read
  refine read_eq_ok_iff.2 ⟨⟨names, parse_between_of_closing ?_⟩, h.depth, h.room⟩
  have hfollows := follows_parse text
  rw [hparse] at hfollows
  generalize hlong : parse (text ++ ")$") = long at hfollows
  cases hfollows with
  | same => rfl
  | commented => exact absurd ⟨_, hparse, hlong⟩ h.closes

/-- If the group is closed behind a text that does not close it itself, the text is read by itself,
and nothing but the closing is left. -/
theorem parse_of_parenthesis {result : Pattern × List String} {rest : List Char}
    (hclosed : ¬ ClosesEarly text) (hlong : parse (text ++ ")$") = some (result, ')' :: rest)) :
    parse text = some (result, []) ∧ rest = ['$'] := by
  have hfollows := follows_parse text
  rw [hlong] at hfollows
  obtain ⟨before, hshort, heq⟩ | ⟨-, heq⟩ | ⟨-, hlt⟩ := hfollows.of_some
  · obtain rfl | ⟨more, rfl⟩ := readRest_stops hshort
    · exact ⟨hshort, (List.cons.inj heq).2⟩
    · exact absurd ⟨_, _, hshort⟩ hclosed
  · cases heq
  · -- the last character of the closing is no parenthesis
    have hsuffix : ')' :: rest <:+ text.toList ++ closing :=
      toList_closing text ▸ readRest_suffix hlong
    rw [List.length_cons] at hlt
    obtain rfl : rest = [] := List.eq_nil_of_length_eq_zero (by omega)
    exact absurd (closing_of_suffix hsuffix (by decide)) (by decide)

/-- When a text is read between the anchors, and as which pattern. -/
theorem readWhole_eq_ok_iff (hclosed : ¬ ClosesEarly text) : Pattern.readWhole text = .ok pattern ↔
    ∃ inner, pattern = whole inner ∧ Stands text inner := by
  constructor
  · intro h
    obtain ⟨⟨names, hbetween⟩, hdepth, hroom⟩ := read_eq_ok_iff.1 h
    have hparse := hbetween
    rw [parse_between] at hparse
    obtain ⟨⟨⟨inner, names'⟩, rest⟩, hlong, hparse⟩ := Option.bind_eq_some_iff.1 hparse
    obtain ⟨⟨_, rest'⟩, hparen, -⟩ := Option.bind_eq_some_iff.1 hparse
    obtain rfl := eq_of_readParen hparen
    obtain ⟨hshort, rfl⟩ := parse_of_parenthesis hclosed hlong
    rw [parse_between_of_closing hlong] at hbetween
    cases hbetween
    rw [depth_whole] at hdepth
    refine ⟨inner, rfl, read_eq_ok_iff.2 ⟨⟨names, hshort⟩, by omega, ?_⟩, ?_, ?_, hroom⟩
    · exact (room_le_room_whole inner).trans hroom
    · rintro ⟨_, -, hcomment⟩
      rw [hlong] at hcomment
      cases hcomment
    · rwa [depth_whole]
  · rintro ⟨inner, rfl, h⟩
    exact h.readWhole

/-- A text that closes the group itself is no pattern. -/
theorem ClosesEarly.read_ne_ok (h : ClosesEarly text) : Pattern.read text ≠ .ok pattern := by
  intro hread
  obtain ⟨result, rest, hclosed⟩ := h
  obtain ⟨⟨names, hparse⟩, -⟩ := read_eq_ok_iff.1 hread
  rw [hclosed] at hparse
  cases hparse

/-- The bounds of all repetitions in a pattern are in order. -/
theorem proper_of_read (h : Pattern.read text = .ok pattern) : Proper pattern := by
  obtain ⟨⟨names, hparse⟩, -⟩ := read_eq_ok_iff.1 h
  exact proper_of_readRest (SequenceState.isProper_start noFlags []) hparse

/-- Between the anchors a pattern is searched for as the whole text. -/
theorem Stands.occursIn_whole {inner : Pattern} {chars : String} (h : Stands text inner) :
    occursIn (whole inner) chars = true ↔ Spans chars.toList.toArray inner 0 chars.length := by
  rw [Pattern.occursIn_whole (proper_of_read h.read), List.size_toArray, String.length_toList]

end Pattern

/-! ### Evaluation and validation -/

namespace Operator

variable {policy : OverflowPolicy} {source : RandomSource} {pattern text : String}

/-- What becomes of a text that is matched with a pattern. -/
def matchOutcome (policy : OverflowPolicy) (pattern text : String) (source : RandomSource) :
    Except RuntimeFault (Value × RandomSource) :=
  apply policy (.patternMatch pattern) [.single (.string text)] source

theorem matchOutcome_eq : matchOutcome policy pattern text source =
    match Pattern.readWhole pattern with
    | .ok compiled => .ok (.boolean (compiled.occursIn text), source)
    | .error error => .error (.invalidPattern pattern error.message) := by
  have happly : matchOutcome policy pattern text source =
      (matchesPattern "patternMatch" (.single (.string text)) pattern).map (·, source) := rfl
  rw [happly, matchesPattern]
  cases hread : Pattern.readWhole pattern <;> rfl

/-- Evaluation refuses a pattern. -/
def RefusesPattern (policy : OverflowPolicy) (pattern text : String) (source : RandomSource) :
    Prop :=
  ∃ error : Pattern.PatternError,
    matchOutcome policy pattern text source = .error (.invalidPattern pattern error.message)

theorem refusesPattern_iff : RefusesPattern policy pattern text source ↔
    ∀ compiled, Pattern.readWhole pattern ≠ .ok compiled := by
  rw [RefusesPattern, matchOutcome_eq]
  cases hread : Pattern.readWhole pattern with
  | error error => exact iff_of_true ⟨error, rfl⟩ nofun
  | ok compiled => exact iff_of_false nofun fun h => h compiled rfl

/-- Evaluation fails with nothing but the pattern. -/
theorem refusesPattern_iff_fault : RefusesPattern policy pattern text source ↔
    ∃ fault, matchOutcome policy pattern text source = .error fault := by
  refine ⟨fun ⟨_, h⟩ => ⟨_, h⟩, fun ⟨fault, h⟩ => refusesPattern_iff.2 fun compiled hread => ?_⟩
  rw [matchOutcome_eq, hread] at h
  cases h

/-- Validation reports what cannot be read between the anchors. -/
theorem reportsPattern_iff :
    (∃ error, Subject.operatorProblem? (.patternMatch pattern) = some (.badPattern error)) ↔
      ∀ compiled, Pattern.readWhole pattern ≠ .ok compiled := by
  rw [Subject.operatorProblem?]
  cases Pattern.readWhole pattern with
  | error error => exact iff_of_true ⟨error, rfl⟩ nofun
  | ok compiled => exact iff_of_false nofun fun h => h compiled rfl

/-- Validation reports a pattern if and only if evaluation fails with it, on any text. Evaluation
refuses a pattern if and only if it cannot stand between the anchors, be it that it is none by
itself or that the anchors spoil it, unless it closes the group between them. Otherwise it says
whether the pattern spans the whole text. -/
theorem patternMatch_exact (policy : OverflowPolicy) (pattern text : String)
    (source : RandomSource) :
    ((∃ error, Subject.operatorProblem? (.patternMatch pattern) = some (.badPattern error)) ↔
      ∃ fault, matchOutcome policy pattern text source = .error fault) ∧
    (¬ Pattern.ClosesEarly pattern →
      (RefusesPattern policy pattern text source ↔ ¬ ∃ inner, Pattern.Stands pattern inner)) ∧
    ∀ inner, Pattern.Stands pattern inner →
      ∃ matched, matchOutcome policy pattern text source = .ok (.boolean matched, source) ∧
        (matched = true ↔ Pattern.Spans text.toList.toArray inner 0 text.length) := by
  refine ⟨?_, fun hclosed => ?_, fun inner hstands => ?_⟩
  · rw [reportsPattern_iff, ← refusesPattern_iff_fault, refusesPattern_iff]
  · rw [refusesPattern_iff, ← not_exists, not_iff_not]
    constructor
    · rintro ⟨compiled, hread⟩
      obtain ⟨inner, -, hstands⟩ := (Pattern.readWhole_eq_ok_iff hclosed).1 hread
      exact ⟨inner, hstands⟩
    · rintro ⟨inner, hstands⟩
      exact ⟨_, hstands.readWhole⟩
  · refine ⟨_, ?_, hstands.occursIn_whole⟩
    rw [matchOutcome_eq, hstands.readWhole]

/-- A text that closes the group between the anchors is no pattern, but it is not refused. -/
theorem not_forall_refused : ¬ ∀ policy pattern text source,
    RefusesPattern policy pattern text source ↔ ¬ ∃ inner, Pattern.read pattern = .ok inner := by
  intro h
  have hread : (Pattern.read "a)|(?:b").isOk = false := by decide +kernel
  have hwhole : (Pattern.readWhole "a)|(?:b").isOk = true := by decide +kernel
  have hrefused : RefusesPattern .fail "a)|(?:b" "axxx" (.ofSeed 0) := by
    refine (h _ _ _ _).2 ?_
    rintro ⟨inner, hinner⟩
    rw [hinner] at hread
    cases hread
  cases hcompiled : Pattern.readWhole "a)|(?:b" with
  | error error =>
    rw [hcompiled] at hwhole
    cases hwhole
  | ok compiled => exact refusesPattern_iff.1 hrefused compiled hcompiled

/-- A pattern that ends in a comment is one by itself only. -/
example : (Pattern.read "(?x)a#b").isOk = true ∧ (Pattern.readWhole "(?x)a#b").isOk = false := by
  decide +kernel

end Operator

end Assessment
