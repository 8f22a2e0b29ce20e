/-!
# Three-valued logic

Truth values with a third one for operands that are null. Conjunction and negation are Kleene's.
Disjunction comes in two forms: Kleene's, and a lenient one that ignores unknown operands.
-/

namespace Assessment

/-- A truth value that may be unknown. -/
inductive TriState where
  /-- True for certain. -/
  | yes
  /-- False for certain. -/
  | no
  /-- Neither is known. -/
  | unknown
  deriving DecidableEq

namespace TriState

/-- The truth values with their names. -/
def names : List (String × TriState) := [("True", yes), ("False", no), ("Unknown", unknown)]

/-- The name of a truth value. -/
def name : TriState → String
  | yes => "True"
  | no => "False"
  | unknown => "Unknown"

/-- A known truth value. -/
def ofBool (b : Bool) : TriState := if b then yes else no

/-- The truth value, if it is known. -/
def toBool? : TriState → Option Bool
  | yes => some true
  | no => some false
  | unknown => none

/-- The negation. -/
def not : TriState → TriState
  | yes => no
  | no => yes
  | unknown => unknown

/-- Which disjunction is meant. -/
inductive Logic where
  /-- An unknown operand leaves the result open unless the other is true. -/
  | kleene
  /-- An unknown operand counts as absent. -/
  | lenient
  deriving DecidableEq

/-- The conjunction; it is the same in both logics. -/
def and : TriState → TriState → TriState
  | no, _ | _, no => no
  | yes, yes => yes
  | _, _ => unknown

/-- The disjunction of a logic. -/
def or (logic : Logic) : TriState → TriState → TriState
  | yes, _ | _, yes => yes
  | no, no => no
  | unknown, unknown => unknown
  | _, _ =>
    match logic with
    | .kleene => unknown
    | .lenient => no

/-- The conjunction of a list from left to right; unknown for an empty list. -/
def all : List TriState → TriState
  | [] => unknown
  | first :: rest => rest.foldl and first

/-- The disjunction of a list from left to right; unknown for an empty list. -/
def any (logic : Logic) : List TriState → TriState
  | [] => unknown
  | first :: rest => rest.foldl (or logic) first

/-- How many operands of a group are true, unknown, and there at all. -/
structure Tally where
  /-- How many are true. -/
  satisfied : Nat
  /-- How many are unknown. -/
  unknown : Nat
  /-- How many there are. -/
  total : Nat
  deriving DecidableEq

/-- Count a group. -/
def Tally.of (states : List TriState) : Tally :=
  ⟨states.countP (· == .yes), states.countP (· == .unknown), states.length⟩

/-- How many operands are false. -/
def Tally.failed (tally : Tally) : Nat := tally.total - (tally.satisfied + tally.unknown)

/-- Whether between `low` and `high` operands are true. Unknown operands may turn out either way,
and the answer is unknown when that matters. -/
def between (low high : Nat) (tally : Tally) : TriState :=
  let optimistic := tally.satisfied + tally.unknown
  if high < low || high < tally.satisfied then no
  else if optimistic < low then no
  else if low ≤ tally.satisfied && optimistic ≤ high then yes
  else unknown

end TriState

end Assessment
