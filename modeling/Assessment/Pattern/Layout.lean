import Assessment.Pattern.Basic

/-!
# Layouts of patterns

What an automaton is built from. A layout says the same as a pattern, but it has no detours: letters
that follow one another are one text, sequences in sequences are gone, a choice between characters
is a set, and what several alternatives begin with stands before them.

## Main definitions

- `Layout`: the parts of an automaton.
- `Layout.ofSequence`, `Layout.ofChoice`, `Layout.ofRepetition`: the laws by which parts are joined.
- `Pattern.layout`: the layout of a pattern.
-/

namespace Assessment

open Text

/-- The parts of an automaton. -/
inductive Layout where
  /-- The empty text. -/
  | empty
  /-- Characters that follow one another, at least one. -/
  | text (codes : List Nat)
  /-- One character of increasing ranges; never exactly one character. -/
  | set (ranges : CodeRanges)
  /-- The empty text at certain positions. -/
  | anchor (anchor : Anchor)
  /-- A part whose match is kept. -/
  | group (part : Layout)
  /-- Parts one after the other, at least two. -/
  | sequence (parts : List Layout)
  /-- Any of some parts, at least two. -/
  | choice (parts : List Layout)
  /-- A part several times over. -/
  | repeated (part : Layout) (least : Nat) (greatest : Option Nat) (greedy : Bool)

namespace Layout

/-! ### Lengths -/

/-- The number of bytes of a character. -/
def byteCount (code : Nat) : Nat :=
  if code < 0x80 then 1 else if code < 0x800 then 2 else if code < 0x10000 then 3 else 4

/-- The sum of some numbers. -/
def total (numbers : List Nat) : Nat := numbers.foldl (· + ·) 0

mutual

/-- The number of bytes of the shortest text, as far as it is known. -/
def shortest? : Layout → Option Nat
  | empty | anchor _ => some 0
  | text codes => some (total (codes.map byteCount))
  | set ranges => ranges.head?.map fun range => byteCount range.1
  | group part => shortest? part
  | sequence parts => shortestOfAll? parts
  | choice parts => shortestOfAny? parts
  | repeated part least _ _ => (shortest? part).map (· * least)

/-- The sum of the shortest lengths. -/
def shortestOfAll? : List Layout → Option Nat
  | [] => some 0
  | part :: rest => do some ((← shortest? part) + (← shortestOfAll? rest))

/-- The least of the shortest lengths. -/
def shortestOfAny? : List Layout → Option Nat
  | [] => none
  | [part] => shortest? part
  | part :: rest => do some (min (← shortest? part) (← shortestOfAny? rest))

end

mutual

/-- Whether a part can match the empty text only. -/
def isBlank : Layout → Bool
  | empty | anchor _ => true
  | text _ | set _ => false
  | group part | repeated part _ _ _ => isBlank part
  | sequence parts | choice parts => areBlank parts

/-- Whether all parts can match the empty text only. -/
def areBlank : List Layout → Bool
  | [] => true
  | part :: rest => isBlank part && areBlank rest

end

/-! ### Equality and size -/

mutual

/-- Whether two parts are the same. Two groups never are, as each keeps a match of its own. -/
def same : Layout → Layout → Bool
  | empty, empty => true
  | text codes, text others => codes == others
  | set ranges, set others => ranges == others
  | anchor a, anchor b => a = b
  | sequence parts, sequence others | choice parts, choice others => areSame parts others
  | repeated part least greatest greedy, repeated other least' greatest' greedy' =>
    least = least' && greatest = greatest' && greedy = greedy' && same part other
  | _, _ => false

/-- Whether two lists of parts are the same. -/
def areSame : List Layout → List Layout → Bool
  | [], [] => true
  | part :: rest, other :: others => same part other && areSame rest others
  | _, _ => false

end

mutual

/-- The number of parts. -/
def size : Layout → Nat
  | empty | text _ | set _ | anchor _ => 1
  | group part | repeated part _ _ _ => size part + 1
  | sequence parts | choice parts => totalSize parts + 1

/-- The number of parts of several. -/
def totalSize : List Layout → Nat
  | [] => 0
  | part :: rest => size part + totalSize rest

end

/-! ### Joining parts -/

/-- One character of a set, which is a text if there is only one. -/
def ofRanges (ranges : CodeRanges) : Layout :=
  match ranges with
  | [(low, high)] => if low = high then text [low] else set ranges
  | _ => set ranges

/-- The parts of a sequence. -/
def steps : Layout → List Layout
  | empty => []
  | sequence parts => parts
  | part => [part]

/-- The parts of a choice. -/
def alternatives : Layout → List Layout
  | choice parts => parts
  | part => [part]

/-- The texts that follow one another made one. -/
def joinTexts : List Layout → List Layout
  | [] => []
  | part :: rest =>
    match part, joinTexts rest with
    | text codes, text more :: rest => text (codes ++ more) :: rest
    | part, rest => part :: rest

/-- Parts one after the other. -/
def ofSequence (parts : List Layout) : Layout :=
  match joinTexts (parts.flatMap steps) with
  | [] => empty
  | [part] => part
  | parts => sequence parts

/-- The only character of a part, if it is a text of one. -/
def character? : Layout → Option Nat
  | text [code] => some code
  | _ => none

/-- The ranges of a part that is a set. -/
def ranges? : Layout → Option CodeRanges
  | set ranges => some ranges
  | _ => none

/-- The set of a choice between characters, or between sets. -/
def mergedSet? (parts : List Layout) : Option Layout :=
  match parts.mapM character? with
  | some codes => some (ofRanges (CharSet.ordered (codes.map fun code => (code, code))))
  | none => (parts.mapM ranges?).map fun ranges => ofRanges (CharSet.ordered ranges.flatten)

/-- What two lists of parts begin with. -/
def commonPrefix : List Layout → List Layout → List Layout
  | part :: rest, other :: others =>
    if same part other then part :: commonPrefix rest others else []
  | _, _ => []

/-- The parts of a part that is a sequence. -/
def sequence? : Layout → Option (List Layout)
  | sequence parts => some parts
  | _ => none

/-- What all of some sequences begin with, and what is left of each; it has to be something. -/
def liftPrefix? (parts : List Layout) : Option (List Layout × List (List Layout)) := do
  match ← parts.mapM sequence? with
  | [] => none
  | first :: rest =>
    let shared := rest.foldl commonPrefix first
    if shared.isEmpty then none
    else some (shared, (first :: rest).map (·.drop shared.length))

/-- Any of some parts. What is left of sequences with a common beginning is a choice again, with
less to choose from, so that the number of all parts bounds the rounds. -/
def ofChoiceWithin : Nat → List Layout → Layout
  | 0, parts => choice parts
  | rounds + 1, parts =>
    match parts.flatMap alternatives with
    | [] => set []
    | [part] => part
    | parts =>
      (mergedSet? parts).getD <|
        match liftPrefix? parts with
        | some (shared, rests) =>
          ofSequence (shared ++ [ofChoiceWithin rounds (rests.map ofSequence)])
        | none => choice parts

/-- Any of some parts. -/
def ofChoice (parts : List Layout) : Layout := ofChoiceWithin (totalSize parts + 1) parts

/-- A part several times over. What can only be empty is the same once or more often. -/
def ofRepetition (part : Layout) (least : Nat) (greatest : Option Nat) (greedy : Bool) : Layout :=
  let (least, greatest) :=
    if isBlank part then (min least 1, some (min (greatest.getD 1) 1)) else (least, greatest)
  if greatest = some 0 then empty
  else if least = 1 ∧ greatest = some 1 then part
  else repeated part least greatest greedy

end Layout

mutual

/-- The layout of a pattern. -/
def Pattern.layout : Pattern → Layout
  | .empty => .empty
  | .one set _ => .ofRanges set.codes
  | .anchor a => .anchor a
  | .group true pattern => .group (Pattern.layout pattern)
  | .group false pattern => Pattern.layout pattern
  | .sequence patterns => .ofSequence (Pattern.layouts patterns)
  | .choice patterns => .ofChoice (Pattern.layouts patterns)
  | .repeated pattern least greatest greedy =>
    .ofRepetition (Pattern.layout pattern) least greatest greedy

/-- The layouts of some patterns. -/
def Pattern.layouts : List Pattern → List Layout
  | [] => []
  | pattern :: rest => Pattern.layout pattern :: Pattern.layouts rest

end

end Assessment
