/-!
# Sets and maps of code points

Character properties are finite unions of code-point ranges, and case maps are finite unions of
arithmetic runs that share one shift. Both are small enough to be searched in order.
-/

namespace Assessment.Text

/-- A set of characters, as a list of ranges of code points with both ends included. -/
abbrev CodeRanges := List (Nat × Nat)

/-- Whether a code point lies in one of the ranges. -/
def CodeRanges.has (ranges : CodeRanges) (code : Nat) : Bool :=
  ranges.any fun range => range.1 ≤ code && code ≤ range.2

/-- Every `stride`-th code point from `first` to `last`, each moved by the same distance. -/
structure CaseRun where
  /-- The first code point of the run. -/
  first : Nat
  /-- The last code point of the run. -/
  last : Nat
  /-- The distance between neighbours of the run. -/
  stride : Nat
  /-- How far each code point moves. -/
  shift : Int

/-- Whether a code point belongs to the run. -/
def CaseRun.has (run : CaseRun) (code : Nat) : Bool :=
  run.first ≤ code && code ≤ run.last && (code - run.first) % run.stride = 0

/-- Where a run moves a code point. -/
def CaseRun.target (run : CaseRun) (code : Nat) : Nat := (Int.ofNat code + run.shift).toNat

/-- The code points of a run. -/
def CaseRun.codes (run : CaseRun) : List Nat :=
  (List.range ((run.last - run.first) / run.stride + 1)).map fun n => run.first + run.stride * n

/-- Where the first run that holds the code point moves it; itself when no run does. -/
def CaseRun.apply (runs : List CaseRun) (code : Nat) : Nat :=
  match runs.find? (·.has code) with
  | some run => run.target code
  | none => code

/-- The code points that some run moves to `code`. -/
def CaseRun.sources (runs : List CaseRun) (code : Nat) : List Nat :=
  runs.filterMap fun run =>
    let source := (Int.ofNat code - run.shift).toNat
    if run.has source && run.target source = code then some source else none

end Assessment.Text
