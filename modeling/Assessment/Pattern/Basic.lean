import Assessment.Property.YesNo

/-!
# Patterns

Regular expressions over characters, and the positions of a text that they lead to. Matching keeps
sets of positions as increasing lists: from the positions where a pattern may begin, it gives those
where it may end.
Which of several matches is preferred does not matter to whether there is one.

## Main definitions

- `Pattern`: regular expressions with anchors, groups and counted repetition, as they are written.
- `Pattern.advance`: the positions where a pattern may end.
- `Pattern.occursIn`: whether a pattern matches some part of a text.
- `Pattern.depth`: how deeply the parts of a pattern are nested.
-/

namespace Assessment

/-- How a position stands to the words around it. -/
inductive WordSide where
  /-- A word begins or ends. -/
  | boundary
  /-- No word begins or ends. -/
  | noBoundary
  /-- A word begins. -/
  | start
  /-- A word ends. -/
  | stop
  /-- No word goes on from before. -/
  | startHalf
  /-- No word goes on behind. -/
  | stopHalf
  deriving DecidableEq

/-- What a position has to be like. -/
inductive Anchor where
  /-- The beginning of the text. -/
  | textStart
  /-- The end of the text. -/
  | textEnd
  /-- The beginning of a line; lines may also end with a carriage return. -/
  | lineStart (returns : Bool)
  /-- The end of a line; lines may also end with a carriage return. -/
  | lineEnd (returns : Bool)
  /-- A place between words, whose characters may be those of all scripts. -/
  | word (side : WordSide) (unicode : Bool)
  deriving DecidableEq

/-- A regular expression. -/
inductive Pattern where
  /-- The empty text. -/
  | empty
  /-- One character of a set, which is written with so many brackets around one another. -/
  | one (set : CharSet) (nesting : Nat)
  /-- The empty text at certain positions. -/
  | anchor (anchor : Anchor)
  /-- A pattern in parentheses, whose match may be kept. -/
  | group (captures : Bool) (pattern : Pattern)
  /-- Patterns one after the other. -/
  | sequence (patterns : List Pattern)
  /-- Any of some patterns. -/
  | choice (patterns : List Pattern)
  /-- A pattern several times over, as often as possible or not. -/
  | repeated (pattern : Pattern) (least : Nat) (greatest : Option Nat) (greedy : Bool)

/-- The word characters of ASCII. -/
def asciiWordRanges : Text.CodeRanges := [(0x30, 0x39), (0x41, 0x5A), (0x5F, 0x5F), (0x61, 0x7A)]

namespace Anchor

/-- Whether the character at a position passes a test; there is none beyond the ends. -/
def testAt (test : Nat → Bool) (text : Array Char) (position : Nat) : Bool :=
  (text[position]?).any fun c => test c.toNat

/-- Whether the character before a position passes a test. -/
def testBefore (test : Nat → Bool) (text : Array Char) : Nat → Bool
  | 0 => false
  | position + 1 => testAt test text position

/-- Whether a position is as an anchor asks for. -/
def holds (text : Array Char) (position : Nat) : Anchor → Bool
  | textStart => position = 0
  | textEnd => position = text.size
  | lineStart false => position = 0 || testBefore (· = 10) text position
  | lineEnd false => position = text.size || testAt (· = 10) text position
  | lineStart true =>
    position = 0 || testBefore (· = 10) text position ||
      (testBefore (· = 13) text position && !testAt (· = 10) text position)
  | lineEnd true =>
    position = text.size || testAt (· = 13) text position ||
      (testAt (· = 10) text position && !testBefore (· = 13) text position)
  | word side unicode =>
    let ranges := if unicode then Property.wordRanges else asciiWordRanges
    let before := testBefore ranges.has text position
    let after := testAt ranges.has text position
    match side with
    | .boundary => before != after
    | .noBoundary => before == after
    | .start => !before && after
    | .stop => before && !after
    | .startHalf => !before
    | .stopHalf => !after

end Anchor

namespace Pattern

/-- The elements of two increasing lists in one. -/
def unite : List Nat → List Nat → List Nat
  | [], second => second
  | first, [] => first
  | x :: first, y :: second =>
    if x < y then x :: unite first (y :: second)
    else if y < x then y :: unite (x :: first) second
    else x :: unite first second
termination_by first second => first.length + second.length

/-- The elements of an increasing list that are not in another. -/
def without : List Nat → List Nat → List Nat
  | [], _ => []
  | first, [] => first
  | x :: first, y :: second =>
    if x < y then x :: without first (y :: second)
    else if y < x then without (x :: first) second
    else without first second
termination_by first second => first.length + second.length

/-- The positions that at most so many steps lead to, where `seen` are those that were reached and
`latest` those of them that were reached last. A step need only go on from the latter. -/
def reach (step : List Nat → List Nat) : Nat → List Nat → List Nat → List Nat
  | 0, seen, _ => seen
  | steps + 1, seen, latest =>
    match without (step latest) seen with
    | [] => seen
    | first :: rest => reach step steps (unite seen (first :: rest)) (first :: rest)

mutual

/-- The positions where a pattern may end that begins at one of the given positions. -/
def advance (text : Array Char) : Pattern → List Nat → List Nat
  | empty, positions => positions
  | one set _, positions =>
    (positions.filter fun position => Anchor.testAt set.has text position).map (· + 1)
  | anchor a, positions => positions.filter fun position => a.holds text position
  | group _ pattern, positions => advance text pattern positions
  | sequence patterns, positions => advanceAll text patterns positions
  | choice patterns, positions => advanceAny text patterns positions
  | repeated pattern least greatest _, positions =>
    -- what is added to the least number; more rounds than characters add nothing
    let more := match greatest with
      | some greatest => min (greatest - least) text.size
      | none => text.size
    -- of more rounds than characters one goes nowhere, and may as well be gone twice
    let begin := Nat.repeat (advance text pattern) (min least (text.size + 1)) positions
    reach (advance text pattern) more begin begin

/-- The positions where patterns may end that follow one another. -/
def advanceAll (text : Array Char) : List Pattern → List Nat → List Nat
  | [], positions => positions
  | pattern :: rest, positions => advanceAll text rest (advance text pattern positions)

/-- The positions where any of some patterns may end. -/
def advanceAny (text : Array Char) : List Pattern → List Nat → List Nat
  | [], _ => []
  | pattern :: rest, positions =>
    unite (advance text pattern positions) (advanceAny text rest positions)

end

/-- Whether a pattern matches some part of a text. -/
def occursIn (pattern : Pattern) (text : String) : Bool :=
  let chars := text.toList.toArray
  !(advance chars pattern (List.range (chars.size + 1))).isEmpty

mutual

/-- How deeply the parts of a pattern are nested. Groups, repetitions, sequences, alternatives and
the brackets of a set count one each. -/
def depth : Pattern → Nat
  | empty | anchor _ => 0
  | one _ nesting => nesting
  | group _ pattern | repeated pattern _ _ _ => depth pattern + 1
  | sequence patterns | choice patterns => greatestDepth patterns + 1

/-- The greatest depth of some patterns. -/
def greatestDepth : List Pattern → Nat
  | [] => 0
  | pattern :: rest => max (depth pattern) (greatestDepth rest)

end

end Pattern

end Assessment
