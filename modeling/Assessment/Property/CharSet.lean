import Assessment.Property.Folding

/-!
# Sets of characters

The sets that patterns write: ranges, and what complements, unions, intersections and differences
of case make of them. Whether a character is in a set follows the set's form; `CharSet.codes` lists
the same characters as ranges in order.

## Main definitions

- `CharSet.has`: whether a code point is in a set.
- `CharSet.codes`: the characters of a set as increasing ranges with gaps between them.
-/

namespace Assessment

open Text

/-- A set of characters. -/
inductive CharSet where
  /-- The characters of some ranges. -/
  | ranges (ranges : CodeRanges)
  /-- All other characters. -/
  | complement (set : CharSet)
  /-- The characters of either set. -/
  | union (first second : CharSet)
  /-- The characters of both sets. -/
  | inter (first second : CharSet)
  /-- The characters of which some case variant is in the set. -/
  | folded (set : CharSet)
  /-- The same with the case variants of ASCII only. -/
  | asciiFolded (set : CharSet)

namespace CharSet

/-- The set of one character. -/
def single (c : Char) : CharSet := ranges [(c.toNat, c.toNat)]

/-- The set without characters. -/
def none : CharSet := ranges []

/-- The set of all characters. -/
def all : CharSet := ranges [(0, 0x10FFFF)]

/-- The characters of the first set that are not in the second. -/
def difference (first second : CharSet) : CharSet := inter first (complement second)

/-- The characters of some sets. -/
def unionAll (sets : List CharSet) : CharSet := sets.foldr union none

/-- The case variants of a code point within ASCII. -/
def asciiVariants (code : Nat) : List Nat :=
  if 0x41 ≤ code ∧ code ≤ 0x5A then [code, code + 32]
  else if 0x61 ≤ code ∧ code ≤ 0x7A then [code, code - 32]
  else [code]

/-- Whether a code point is in a set. -/
def has : CharSet → Nat → Bool
  | ranges r, code => r.has code
  | complement set, code => !set.has code
  | union first second, code => first.has code || second.has code
  | inter first second, code => first.has code && second.has code
  | folded set, code => (Property.caseVariants code).any set.has
  | asciiFolded set, code => (asciiVariants code).any set.has

/-- Whether all characters of a set are in ASCII, as far as a single byte tells. -/
def isAscii (set : CharSet) : Bool := (List.range 128).all fun n => !set.has (128 + n)

/-! ### Sets as ranges in order -/

/-- The ranges of an increasing list, where those that meet are joined; the first is `last`. -/
def joinFrom (last : Nat × Nat) : CodeRanges → CodeRanges
  | [] => [last]
  | next :: rest =>
    if next.1 ≤ last.2 + 1 then joinFrom (last.1, max last.2 next.2) rest
    else last :: joinFrom next rest

/-- The same code points as increasing ranges with gaps between them. -/
def ordered (ranges : CodeRanges) : CodeRanges :=
  match ranges.mergeSort fun first second => first.1 ≤ second.1 with
  | [] => []
  | first :: rest => joinFrom first rest

/-- The gaps between increasing ranges from a code point on. -/
def gapsFrom (start : Nat) : CodeRanges → CodeRanges
  | [] => if start ≤ 0x10FFFF then [(start, 0x10FFFF)] else []
  | (low, high) :: rest =>
    if start < low then (start, low - 1) :: gapsFrom (high + 1) rest else gapsFrom (high + 1) rest

/-- The code points that are in two lists of increasing ranges. -/
def common : CodeRanges → CodeRanges → CodeRanges
  | [], _ => []
  | _, [] => []
  | a :: first, b :: second =>
    let low := max a.1 b.1
    let high := min a.2 b.2
    let rest := if a.2 < b.2 then common first (b :: second) else common (a :: first) second
    if low ≤ high then (low, high) :: rest else rest
termination_by first second => first.length + second.length

/-- All code points that have case variants, each with the one that stands for all of them. -/
def foldings : List (Nat × Nat) :=
  Property.foldingRuns.flatMap fun run => run.codes.map fun code => (code, run.target code)

/-- The case variants of the characters of some ranges. -/
def variants (ranges : CodeRanges) : CodeRanges :=
  let targets := ordered <|
    (foldings.filter fun (code, target) => ranges.has code || ranges.has target).map
      fun (_, target) => (target, target)
  targets ++
    (foldings.filter fun (_, target) => targets.has target).map fun (code, _) => (code, code)

/-- The case variants of the letters of ASCII among some ranges. -/
def variantsInAscii (ranges : CodeRanges) : CodeRanges :=
  (common ranges [(0x41, 0x5A)]).map (fun range => (range.1 + 32, range.2 + 32)) ++
    (common ranges [(0x61, 0x7A)]).map fun range => (range.1 - 32, range.2 - 32)

/-- The code points of a set as ranges in any order. -/
def points : CharSet → CodeRanges
  | ranges r => r
  | complement set => gapsFrom 0 (ordered set.points)
  | union first second => first.points ++ second.points
  | inter first second => common (ordered first.points) (ordered second.points)
  | folded set =>
    let points := ordered set.points
    points ++ variants points
  | asciiFolded set =>
    let points := ordered set.points
    points ++ variantsInAscii points

/-- The characters of a set as increasing ranges: its code points without the surrogates. -/
def codes (set : CharSet) : CodeRanges :=
  common (ordered set.points) [(0, 0xD7FF), (0xE000, 0x10FFFF)]

end CharSet

end Assessment
