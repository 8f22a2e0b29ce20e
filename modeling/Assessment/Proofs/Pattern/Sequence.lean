import Assessment.Proofs.Pattern.Class

/-!
# Patterns with something behind them

The reader of sequences goes on until a group or the text is at its end. With the closing behind it
a text is read up to the same place, and the closing is left there; or it ends in a comment, and
nothing is left; or it is no pattern, and of the closing too little is left to go on with.

## Main definitions

- `Pattern.SequenceState`: what a reader of sequences knows.
- `Pattern.readRest`: the reader of sequences from a state on.

## Main results

- `Pattern.readRest_succ`: a sequence is at its end, or there is one step more to go.
- `Pattern.follows_readRest`: what is read of a text with the closing behind it.
- `Pattern.readRest_stops`: where a sequence ends.
-/

namespace Assessment

namespace Pattern

/-! ### Steps -/

/-- What a reader of sequences knows: the flags in force, the names of groups so far, the
alternatives before the current one and its items, both backwards. -/
structure SequenceState where
  /-- The flags in force. -/
  flags : PatternFlags
  /-- The names of the groups so far. -/
  names : List String
  /-- The alternatives before the current one. -/
  done : List Pattern
  /-- The items of the current alternative. -/
  items : Items

namespace SequenceState

/-- A sequence at its beginning. -/
def start (flags : PatternFlags) (names : List String) : SequenceState := ⟨flags, names, [], []⟩

/-- The pattern of a sequence at its end, and the names of its groups. -/
def result (state : SequenceState) : Pattern × List String :=
  (choiceOf (sequenceOf state.items) state.done, state.names)

/-- One item more, if there is one. -/
def add (state : SequenceState) (pattern : Option Pattern) : Option SequenceState :=
  pattern.map fun pattern => { state with items := some pattern :: state.items }

/-- The last item several times over, if there is one. -/
def repeatLast (state : SequenceState) (repetition : Repetition) : Option SequenceState :=
  (repeatLast? state.flags repetition state.items).map fun items => { state with items := items }

end SequenceState

/-- What reads a group up to its end. -/
abbrev GroupReader :=
  PatternFlags × List String → List Char → Option ((Pattern × List String) × List Char)

/-- The end of a group. -/
def readParen : List Char → Option (Unit × List Char)
  | [] => none
  | c :: rest => if c = ')' then some ((), rest) else none

/-- What an opening parenthesis began: a group, which is read by `inner`, or new flags. -/
def readGroup (inner : GroupReader) (state : SequenceState) (opening : Opening)
    (chars : List Char) : Option (SequenceState × List Char) :=
  match opening with
  | .flags flags => some ({ state with flags := flags, items := none :: state.items }, chars)
  | .group flags captures name =>
    if name.any state.names.contains then none
    else (inner (flags, name.toList ++ state.names) chars).bind fun result =>
      (readParen result.2).map fun closed =>
        ({ state with
          names := result.1.2
          items := some (.group captures result.1.1) :: state.items }, closed.2)

/-- What is repeated, and how often. -/
def readRepetition (state : SequenceState) (bounds : Option (Repetition × List Char)) :
    Option (SequenceState × List Char) :=
  bounds.bind fun bounds => (state.repeatLast bounds.1).map fun state => (state, bounds.2)

/-- One item more, of a primitive. -/
def addPrimitive (state : SequenceState) (primitive : Primitive) (rest : List Char) :
    Option (SequenceState × List Char) :=
  (state.add (ofPrimitive? state.flags primitive)).map fun state => (state, rest)

/-- One step in a sequence that is not at its end. -/
def sequenceStep (inner : GroupReader) (state : SequenceState) (c : Char) (rest : List Char) :
    Option (SequenceState × List Char) :=
  match c with
  | '|' =>
    some ({ state with done := sequenceOf state.items :: state.done, items := [] }, rest)
  | '(' => (readOpening state.flags rest).bind fun opening =>
    readGroup inner state opening.1 opening.2
  | '*' => readRepetition state (some (readLazy 0 none rest))
  | '+' => readRepetition state (some (readLazy 1 none rest))
  | '?' => readRepetition state (some (readLazy 0 (some 1) rest))
  | '\x7b' => readRepetition state (readBounds state.flags rest)
  | '[' => (paired (readClass state.flags rest)).bind fun found =>
    (state.add (some (.one found.1.1 found.1.2))).map fun state => (state, found.2)
  | '.' => (state.add (dot? state.flags)).map fun state => (state, rest)
  | '^' =>
    let start := if state.flags.multiLine then .lineStart state.flags.returns else .textStart
    (state.add (some (.anchor start))).map fun state => (state, rest)
  | '$' =>
    let stop := if state.flags.multiLine then .lineEnd state.flags.returns else .textEnd
    (state.add (some (.anchor stop))).map fun state => (state, rest)
  | '\\' => (readEscape state.flags rest).bind fun escaped =>
    addPrimitive state escaped.1 escaped.2
  | c => (state.add (literal? state.flags c false)).map fun state => (state, rest)

/-- The reader of sequences from a state on. -/
def readRest (fuel : Nat) (state : SequenceState) (chars : List Char) :
    Option ((Pattern × List String) × List Char) :=
  paired (readSequence fuel state.flags state.names state.done state.items chars)

/-- The reader of sequences at the beginning of a group. -/
def readInside (fuel : Nat) : GroupReader := fun opened => readRest fuel (.start opened.1 opened.2)

/-- The last item is repeated, and then the sequence goes on. -/
theorem paired_again {fuel : Nat} {flags : PatternFlags} {names : List String}
    {done : List Pattern} {items : Items} (repetition : Repetition × List Char) :
    paired (do
      readSequence fuel flags names done (← repeatLast? flags repetition.1 items) repetition.2) =
      (readRepetition ⟨flags, names, done, items⟩ (some repetition)).bind fun next =>
        readRest fuel next.1 next.2 := by
  cases hrepeat : repeatLast? flags repetition.1 items <;>
    simp [readRepetition, SequenceState.repeatLast, hrepeat, readRest]

/-- A sequence is at its end, or there is one step more to go. -/
theorem readRest_succ (fuel : Nat) (state : SequenceState) (chars : List Char) :
    readRest (fuel + 1) state chars = match skip state.flags chars with
      | [] => some (state.result, [])
      | c :: rest =>
        if c = ')' then some (state.result, c :: rest)
        else (sequenceStep (readInside fuel) state c rest).bind fun next =>
          readRest fuel next.1 next.2 := by
  obtain ⟨flags, names, done, items⟩ := state
  rw [readRest, readSequence]
  generalize skip flags chars = text
  rcases text with _ | ⟨c, rest⟩
  · rfl
  dsimp only
  split
  case h_1 heq => cases heq
  case h_2 heq =>
    cases heq
    rfl
  case h_3 heq =>
    cases heq
    rfl
  case h_4 rest heq =>
    cases heq
    rcases hopening : readOpening flags rest with _ | ⟨opening, after⟩
    · simp [sequenceStep, hopening]
    cases opening with
    | flags inner => simp [sequenceStep, hopening, readGroup, readRest]
    | group inner captures name =>
      by_cases hname : name.any names.contains = true
      · simp [sequenceStep, hopening, readGroup, hname]
      have hinside : readInside fuel (inner, name.toList ++ names) after =
          paired (readSequence fuel inner (name.toList ++ names) [] [] after) := rfl
      rcases hinner : readSequence fuel inner (name.toList ++ names) [] [] after with
        _ | ⟨pattern, found, _ | ⟨d, last⟩⟩
      · simp [sequenceStep, hopening, readGroup, hname, hinside, hinner]
      · simp [sequenceStep, hopening, readGroup, hname, hinside, hinner, readParen]
      · by_cases hd : d = ')' <;>
          simp [sequenceStep, hopening, readGroup, hname, hinside, hinner, readParen, hd, readRest]
  case h_5 heq =>
    cases heq
    exact paired_again (readLazy 0 none _)
  case h_6 heq =>
    cases heq
    exact paired_again (readLazy 1 none _)
  case h_7 heq =>
    cases heq
    exact paired_again (readLazy 0 (some 1) _)
  case h_8 rest heq =>
    cases heq
    rcases hbounds : readBounds flags rest with _ | bounds
    · simp [sequenceStep, readRepetition, hbounds]
    · simpa [sequenceStep, readRepetition, hbounds] using paired_again bounds
  case h_9 rest heq =>
    cases heq
    rcases hclass : readClass flags rest with _ | ⟨set, nesting, after⟩
    · simp [sequenceStep, hclass]
    · simp [sequenceStep, hclass, SequenceState.add, readRest]
  case h_10 heq =>
    cases heq
    cases hdot : dot? flags <;> simp [sequenceStep, SequenceState.add, hdot, readRest]
  case h_11 heq =>
    cases heq
    rfl
  case h_12 heq =>
    cases heq
    rfl
  case h_13 rest heq =>
    cases heq
    rcases hescape : readEscape flags rest with _ | ⟨primitive, after⟩
    · simp [sequenceStep, hescape]
    · cases hof : ofPrimitive? flags primitive <;>
        simp [sequenceStep, hescape, addPrimitive, hof, SequenceState.add, readRest]
  case h_14 hparen _ _ _ _ _ _ _ _ _ _ _ heq =>
    cases heq
    rw [if_neg hparen, sequenceStep]
    · cases hliteral : literal? flags c false <;> simp [SequenceState.add, readRest]
    all_goals assumption

/-! ### What a step leaves -/

section step

variable {inner inner' : GroupReader} {state state' : SequenceState} {c : Char}
  {chars rest : List Char}

/-- Only groups are read by the other reader. -/
theorem sequenceStep_of_ne (hc : c ≠ '(') :
    sequenceStep inner state c = sequenceStep inner' state c := by
  funext rest
  unfold sequenceStep
  split <;> first | rfl | exact absurd rfl hc

theorem isReader_readRepetition {bounds : List Char → Option (Repetition × List Char)}
    (h : IsReader 0 bounds) (state : SequenceState) :
    IsReader 2 fun rest => readRepetition state (bounds rest) :=
  (h.mono (Nat.zero_le 2)).bind fun repetition => isReader_option (state.repeatLast repetition)

/-- All steps but groups and escapes are readers. -/
theorem isReader_sequenceStep (hgroup : c ≠ '(') (hescape : c ≠ '\\') :
    IsReader 2 (sequenceStep inner state c) := by
  unfold sequenceStep
  split
  · exact isReader_some _
  · exact absurd rfl hgroup
  · exact isReader_readRepetition (isReader_readLazy 0 none) state
  · exact isReader_readRepetition (isReader_readLazy 1 none) state
  · exact isReader_readRepetition (isReader_readLazy 0 (some 1)) state
  · exact isReader_readRepetition (isReader_readBounds state.flags) state
  · exact ((isReader_readClass state.flags).mono (Nat.zero_le 2)).bind fun found =>
      isReader_option (state.add (some (.one found.1 found.2)))
  · exact isReader_option (state.add (dot? state.flags))
  · exact isReader_option (state.add (some _))
  · exact isReader_option (state.add (some _))
  · exact absurd rfl hescape
  · exact isReader_option (state.add (literal? state.flags c false))

theorem isReader_readParen : IsReader 2 readParen := by
  have hparen (c : Char) : IsReader 2 fun rest => if c = ')' then some ((), rest) else none := by
    split
    · exact isReader_some ()
    · exact isReader_none
  refine (isReader_uncons (Nat.le_refl 2) hparen).of_eq fun chars => ?_
  cases chars <;> rfl

theorem eq_of_readParen {closed : Unit} (h : readParen chars = some (closed, rest)) :
    chars = ')' :: rest := by
  unfold readParen at h
  split at h
  · cases h
  · split at h
    next hc =>
      cases h
      rw [hc]
    next => cases h

/-- Behind the sequence in a group stands a parenthesis. -/
theorem isReader_groupEnd (state : SequenceState) (captures : Bool)
    (result : Pattern × List String) : IsReader 2 fun chars =>
      (readParen chars).map fun closed =>
        ({ state with
          names := result.2
          items := some (.group captures result.1) :: state.items }, closed.2) :=
  isReader_readParen.map fun _ => _

section suffix

variable (hinner : ∀ opened chars a rest, inner opened chars = some (a, rest) → rest <:+ chars)

include hinner

theorem readGroup_suffix {opening : Opening}
    (h : readGroup inner state opening chars = some (state', rest)) : rest <:+ chars := by
  cases opening with
  | flags flags =>
    cases h
    exact List.suffix_rfl
  | group flags captures name =>
    rw [readGroup] at h
    split at h
    · cases h
    · obtain ⟨⟨result, rest'⟩, hresult, h⟩ := Option.bind_eq_some_iff.1 h
      exact ((isReader_groupEnd state captures result).suffix h).trans (hinner _ _ _ _ hresult)

theorem sequenceStep_suffix (h : sequenceStep inner state c chars = some (state', rest)) :
    rest <:+ chars := by
  by_cases hgroup : c = '('
  · subst hgroup
    obtain ⟨⟨opening, after⟩, hopening, h⟩ := Option.bind_eq_some_iff.1 h
    exact (readGroup_suffix hinner h).trans ((isReader_readOpening state.flags).suffix hopening)
  by_cases hescape : c = '\\'
  · subst hescape
    obtain ⟨⟨primitive, after⟩, hread, h⟩ := Option.bind_eq_some_iff.1 h
    obtain ⟨_, -, heq⟩ := Option.map_eq_some_iff.1 h
    cases heq
    exact readEscape_suffix hread
  · exact (isReader_sequenceStep hgroup hescape).suffix h

end suffix

/-- A step depends on what is read of groups within the text only. -/
theorem sequenceStep_congr
    (hinner : ∀ opened rest, rest <:+ chars → inner opened rest = inner' opened rest) :
    sequenceStep inner state c chars = sequenceStep inner' state c chars := by
  by_cases hgroup : c = '('
  · subst hgroup
    refine Option.bind_congr fun ⟨opening, after⟩ hopening => ?_
    cases opening with
    | flags flags => rfl
    | group flags captures name =>
      rw [readGroup, readGroup, hinner _ after ((isReader_readOpening state.flags).suffix hopening)]
  · rw [sequenceStep_of_ne hgroup]

/-- What a step makes of both texts, or a brace that is left of the longer one and begins no
repetition. -/
def StepFollows (short long : Option (SequenceState × List Char)) : Prop :=
  Follows 2 short long ∨ short = none ∧ ∃ state rest, long = some (state, '\x7b' :: rest) ∧
    readBounds state.flags rest = none

section follows

variable (hsuffix : ∀ opened chars a rest, inner' opened chars = some (a, rest) → rest <:+ chars)

theorem follows_readGroup {long : List Char} (opening : Opening) (htrails : Trails chars long)
    (hinner : ∀ opened, Follows 2 (inner opened chars) (inner' opened long)) :
    Follows 2 (readGroup inner state opening chars) (readGroup inner' state opening long) := by
  cases opening with
  | flags flags => exact htrails.follows _
  | group flags captures name =>
    rw [readGroup, readGroup]
    split
    · exact follows_none
    · exact (hinner _).bind
        (fun result rest _ => (isReader_groupEnd state captures result).follows rest)
        (fun result _ => (isReader_groupEnd state captures result).follows_nil)
        fun result _ _ _ h => (isReader_groupEnd state captures result).suffix h

include hsuffix

theorem follows_sequenceStep
    (hinner : ∀ opened rest, rest.length ≤ chars.length →
      Follows 2 (inner opened rest) (inner' opened (rest ++ closing)))
    (hnil : ∀ opened, Follows 2 (inner opened []) (inner' opened [])) :
    StepFollows (sequenceStep inner state c chars)
      (sequenceStep inner' state c (chars ++ closing)) := by
  by_cases hgroup : c = '('
  · subst hgroup
    exact .inl (((isReader_readOpening state.flags).follows chars).bind
      (fun opening rest hrest => follows_readGroup opening (.inl rfl) fun opened =>
        hinner opened rest ((isReader_readOpening state.flags).suffix hrest).length_le)
      (fun opening _ => follows_readGroup opening (.inr ⟨rfl, rfl⟩) hnil)
      fun opening _ _ _ h => readGroup_suffix hsuffix h)
  by_cases hescape : c = '\\'
  · subst hescape
    have hadd (primitive : Primitive) : IsReader 2 (addPrimitive state primitive) :=
      isReader_option (state.add (ofPrimitive? state.flags primitive))
    obtain hread | ⟨hshort, a, rest, hlong, hbounds⟩ := follows_readEscape state.flags chars
    · exact .inl (hread.bind (fun primitive rest _ => (hadd primitive).follows rest)
        (fun primitive _ => (hadd primitive).follows_nil)
        fun primitive _ _ _ h => (hadd primitive).suffix h)
    · refine .inr ⟨?_, { state with items := some (.anchor a) :: state.items }, rest, ?_, hbounds⟩
      · simp only [sequenceStep, hshort, Option.bind_none]
      · simp only [sequenceStep, hlong]
        rfl
  · have hsame : sequenceStep inner state c = sequenceStep inner' state c :=
      sequenceStep_of_ne hgroup
    rw [hsame]
    exact .inl ((isReader_sequenceStep hgroup hescape).follows chars)

end follows

end step

/-! ### Whole sequences -/

theorem readRest_suffix {fuel : Nat} {state : SequenceState} {chars rest : List Char}
    {a : Pattern × List String} (h : readRest fuel state chars = some (a, rest)) :
    rest <:+ chars := by
  induction fuel generalizing state chars rest a with
  | zero => cases h
  | succ fuel ih =>
    rw [readRest_succ] at h
    refine List.IsSuffix.trans ?_ (skip_suffix state.flags chars)
    split at h
    next =>
      cases h
      exact List.nil_suffix
    next c after hskip =>
      split at h
      · cases h
        exact hskip ▸ List.suffix_rfl
      · obtain ⟨⟨state', rest'⟩, hstep, h⟩ := Option.bind_eq_some_iff.1 h
        have hafter := sequenceStep_suffix (fun _ _ _ _ hinner => ih hinner) hstep
        exact hskip ▸ ((ih h).trans hafter).trans (List.suffix_cons c after)

theorem readInside_suffix (fuel : Nat) (opened : PatternFlags × List String) (chars : List Char)
    (a : Pattern × List String) (rest : List Char)
    (h : readInside fuel opened chars = some (a, rest)) : rest <:+ chars := readRest_suffix h

/-- A sequence ends with the text or before a closing parenthesis. -/
theorem readRest_stops {fuel : Nat} {state : SequenceState} {chars rest : List Char}
    {a : Pattern × List String} (h : readRest fuel state chars = some (a, rest)) :
    rest = [] ∨ ∃ after, rest = ')' :: after := by
  induction fuel generalizing state chars with
  | zero => cases h
  | succ fuel ih =>
    rw [readRest_succ] at h
    split at h
    next =>
      cases h
      exact .inl rfl
    next c after hskip =>
      split at h
      next hc =>
        cases h
        exact .inr ⟨after, hc ▸ rfl⟩
      next =>
        obtain ⟨_, -, h⟩ := Option.bind_eq_some_iff.1 h
        exact ih h

/-- Without bounds in it a brace begins nothing. -/
theorem readRest_brace {fuel : Nat} {state : SequenceState} {chars : List Char}
    (h : readBounds state.flags chars = none) : readRest fuel state ('\x7b' :: chars) = none := by
  have hskip : skip state.flags ('\x7b' :: chars) = '\x7b' :: chars := by
    have hblank : Text.isBlank '\x7b' = false := by decide
    simp [skip, skipFrom, hblank]
  cases fuel with
  | zero => rfl
  | succ fuel =>
    rw [readRest_succ, hskip]
    dsimp only
    rw [if_neg (by decide), sequenceStep, h]
    rfl

/-- Nothing is left to read, in a comment or not. -/
theorem follows_readRest_nil {fuel fuel' : Nat} (hfuel : 0 < fuel) (hfuel' : 0 < fuel')
    (state : SequenceState) : Follows 2 (readRest fuel state []) (readRest fuel' state []) := by
  have hskip : skip state.flags [] = [] := List.suffix_nil.1 (skip_suffix _ _)
  obtain ⟨fuel, rfl⟩ := Nat.exists_eq_add_one_of_ne_zero (Nat.ne_of_gt hfuel)
  obtain ⟨fuel', rfl⟩ := Nat.exists_eq_add_one_of_ne_zero (Nat.ne_of_gt hfuel')
  rw [readRest_succ, readRest_succ, hskip]
  exact .commented _

/-- Fuel for each character is enough. -/
theorem readRest_fuel {fuel fuel' : Nat} {state : SequenceState} {chars : List Char}
    (hfuel : chars.length < fuel) (hfuel' : chars.length < fuel') :
    readRest fuel state chars = readRest fuel' state chars := by
  induction fuel generalizing fuel' state chars with
  | zero => exact absurd hfuel (Nat.not_lt_zero _)
  | succ fuel ih =>
    obtain ⟨fuel', rfl⟩ :=
      Nat.exists_eq_add_one_of_ne_zero (Nat.ne_of_gt (Nat.zero_lt_of_lt hfuel'))
    have hlen := (skip_suffix state.flags chars).length_le
    rw [readRest_succ, readRest_succ]
    generalize skip state.flags chars = text at hlen ⊢
    rcases text with _ | ⟨c, rest⟩
    · rfl
    · rw [List.length_cons] at hlen
      have hstep : sequenceStep (readInside fuel) state c rest =
          sequenceStep (readInside fuel') state c rest :=
        sequenceStep_congr fun opened rest' hsuffix => by
          have := hsuffix.length_le
          exact ih (by omega) (by omega)
      dsimp only
      rw [hstep]
      split
      · rfl
      · refine Option.bind_congr fun ⟨state', rest'⟩ hstep => ?_
        have hle := (sequenceStep_suffix (readInside_suffix fuel') hstep).length_le
        change readRest fuel state' rest' = readRest fuel' state' rest'
        exact ih (by omega) (by omega)

/-- A text is read in the same way with the closing behind it, as far as it is read. -/
theorem follows_readRest {fuel fuel' : Nat} {state : SequenceState} {chars : List Char}
    (hfuel : chars.length < fuel) (hfuel' : chars.length < fuel') :
    Follows 2 (readRest fuel state chars) (readRest fuel' state (chars ++ closing)) := by
  induction fuel generalizing fuel' state chars with
  | zero => exact absurd hfuel (Nat.not_lt_zero _)
  | succ fuel ih =>
    cases fuel' with
    | zero => exact absurd hfuel' (Nat.not_lt_zero _)
    | succ fuel' =>
      have hlen := (skip_suffix state.flags chars).length_le
      rw [readRest_succ, readRest_succ]
      obtain hskip | ⟨hskip, hskip'⟩ := trails_skip state.flags chars
      · rw [hskip]
        generalize skip state.flags chars = text at hlen ⊢
        rcases text with _ | ⟨c, rest⟩
        · -- the longer text stops at the parenthesis of the closing
          exact .same state.result []
        · rw [List.length_cons] at hlen
          rw [List.cons_append]
          dsimp only
          by_cases hc : c = ')'
          · rw [if_pos hc, if_pos hc]
            exact .same state.result (c :: rest)
          · rw [if_neg hc, if_neg hc]
            have hfuel_pos : 0 < fuel := by omega
            have hfuel_pos' : 0 < fuel' := by omega
            have hstep : StepFollows (sequenceStep (readInside fuel) state c rest)
                (sequenceStep (readInside fuel') state c (rest ++ closing)) :=
              follows_sequenceStep (readInside_suffix fuel')
                (fun opened rest' hle => ih (by omega) (by omega))
                fun opened => follows_readRest_nil hfuel_pos hfuel_pos' (.start opened.1 opened.2)
            obtain hfollows | ⟨hshort, state', rest', hlong, hbounds⟩ := hstep
            · refine hfollows.bind (fun state' rest' hnext => ?_)
                (fun state' _ => follows_readRest_nil hfuel_pos hfuel_pos' state')
                fun _ _ _ _ h => readRest_suffix h
              have := (sequenceStep_suffix (readInside_suffix fuel) hnext).length_le
              exact ih (by omega) (by omega)
            · -- the brace that dangles is refused in the next step
              rw [hshort, hlong, Option.bind_some, readRest_brace hbounds]
              exact follows_none
      · -- the comment at the end of the text goes on over the closing
        rw [hskip, hskip']
        exact .commented state.result

end Pattern

end Assessment
