import Assessment.Pattern.Layout

/-!
# The room that patterns take

A pattern is turned into two automata over the bytes of UTF-8, one that reads forwards and keeps
the matches of groups, and one that reads backwards. Each state takes a fixed room, and more for
what leads out of it. Repetition copies its part, so that a short pattern may take much room; the
room is computed from the layout, without any copies.

## Main definitions

- `Layout.room`: the room of the states of a part, in bytes.
- `Pattern.room`: the greater room of the two automata of a pattern.
-/

namespace Assessment

open Text

namespace Layout

/-- The room of a state. -/
def stateRoom : Nat := 32

/-- The room of a state with a choice of so many states. -/
def forkRoom (count : Nat) : Nat := stateRoom + 4 * count

/-- The room of a state with so many ranges of bytes. -/
def branchRoom (count : Nat) : Nat := stateRoom + 8 * count

/-! ### Characters as bytes -/

/-- Ranges of bytes that follow one another. -/
abbrev ByteRanges := List (Nat × Nat)

/-- The number of values of so many bytes behind the first. -/
def blockSize : Nat → Nat
  | 0 => 1
  | count + 1 => 64 * blockSize count

/-- The values from `low` to `high` as a first byte, to which `lead` is added, and so many bytes
behind it. Where the bytes behind take not all their values, the first byte is a single one. -/
def splitBytes (lead : Nat) : Nat → Nat → Nat → List ByteRanges
  | 0, low, high => [[(lead + low, lead + high)]]
  | count + 1, low, high =>
    let block := blockSize (count + 1)
    let first := low / block
    let last := high / block
    let part (byte low high : Nat) :=
      (splitBytes 0x80 count low high).map ((lead + byte, lead + byte) :: ·)
    if first = last then part first (low % block) (high % block)
    else
      let startsWhole := low % block = 0
      let stopsWhole := high % block = block - 1
      let start := if startsWhole then first else first + 1
      let stop := if stopsWhole then last + 1 else last
      (if startsWhole then [] else part first (low % block) (block - 1)) ++
        (if start < stop then
          [(lead + start, lead + stop - 1) :: List.replicate (count + 1) (0x80, 0xBF)]
        else []) ++
        if stopsWhole then [] else part last 0 (high % block)

/-- The ranges of characters that have the same number of bytes, with the number of bytes behind
the first and what is added to the first. -/
def byteZones : List (Nat × Nat × Nat × Nat) :=
  [(0, 0x7F, 0, 0), (0x80, 0x7FF, 1, 0xC0), (0x800, 0xFFFF, 2, 0xE0), (0x10000, 0x10FFFF, 3, 0xF0)]

/-- The characters of a range as bytes, in order. -/
def byteSequences (range : Nat × Nat) : List ByteRanges :=
  byteZones.flatMap fun (low, high, count, lead) =>
    let low := max low range.1
    let high := min high range.2
    if low ≤ high then splitBytes lead count low high else []

/-- The bytes of a character. -/
def bytesOf (code : Nat) : List Nat := (byteSequences (code, code)).flatten.map (·.1)

/-- Sequences in order, with those together that begin in the same way. -/
def groupHeads : List ByteRanges → List ((Nat × Nat) × List ByteRanges)
  | [] => []
  | [] :: rest => groupHeads rest
  | (head :: tail) :: rest =>
    match groupHeads rest with
    | (other, tails) :: groups =>
      if head = other then (head, tail :: tails) :: groups
      else (head, [tail]) :: (other, tails) :: groups
    | [] => [(head, [tail])]

/-- A state by its ranges of bytes, each with the number of the state it leads to. -/
abbrev ByteState := List (Nat × Nat × Nat)

/-- The number of a state among those there are, where the last one comes first. The state is
added if it is new. -/
def numberOf (states : List ByteState) (state : ByteState) : List ByteState × Nat :=
  match states.findIdx? (· == state) with
  | some index => (states, states.length - index)
  | none => (state :: states, states.length + 1)

/-- Add the states for sequences of at most so many ranges, and give the number of the first one.
Equal states are one, and the end has the number zero. -/
def addStates : Nat → List ByteState → List ByteRanges → List ByteState × Nat
  | 0, states, _ => (states, 0)
  | length + 1, states, sequences =>
    if sequences.all (·.isEmpty) then (states, 0)
    else
      let (states, state) := (groupHeads sequences).foldl
        (fun (states, state) (head, tails) =>
          let (states, next) := addStates length states tails
          (states, (head.1, head.2, next) :: state))
        (states, [])
      numberOf states state

/-- The number of ranges that some sequences have beyond what the sequence before begins with. -/
def newRanges (before : ByteRanges) : List ByteRanges → Nat
  | [] => 0
  | ranges :: rest =>
    let shared := ((before.zip ranges).takeWhile fun (a, b) => a == b).length
    ranges.length - shared + newRanges ranges rest

/-- The room of a set. Forwards, states with the same continuation are one; backwards, only what
the sequences begin with is shared. -/
def setRoom (backwards : Bool) (ranges : CodeRanges) : Nat :=
  if ranges.all fun range => range.2 < 0x80 then stateRoom + branchRoom ranges.length
  else
    let sequences := ranges.flatMap byteSequences
    if backwards then
      forkRoom sequences.length + stateRoom + stateRoom * newRanges [] sequences
    else
      stateRoom + total ((addStates 4 [] sequences).1.map fun state => branchRoom state.length)

/-! ### Texts to choose from -/

/-- Texts in order, cut at each place where one of them has ended. An end is left out where another
one came first and nothing goes on. -/
def cutAtEnds (done : List (List (List Nat))) (current : List (List Nat)) :
    List (List Nat) → List (List (List Nat)) × List (List Nat)
  | [] => (done, current)
  | [] :: rest =>
    if !done.isEmpty && done.all (·.isEmpty) && current.isEmpty then cutAtEnds done current rest
    else cutAtEnds (done ++ [current]) [] rest
  | bytes :: rest => cutAtEnds done (current ++ [bytes]) rest

/-- The different first bytes of some texts. -/
def firstBytes (texts : List (List Nat)) : List Nat := (texts.filterMap List.head?).eraseDups

/-- The room of the states for a choice between texts of at most so many bytes, apart from the
state at their end. Texts share what they begin with, as far as their order allows. -/
def textsRoom : Nat → List (List Nat) → Nat
  | 0, _ => 0
  | length + 1, texts =>
    if texts.all (·.isEmpty) then 0
    else
      let (done, last) := cutAtEnds [] [] texts
      let chunks := (done ++ [last]).filter (!·.isEmpty)
      forkRoom (chunks.length + done.length) + total (chunks.map fun chunk =>
        let bytes := firstBytes chunk
        (if bytes.length = 1 then stateRoom else branchRoom bytes.length) +
          total (bytes.map fun byte => textsRoom length
            ((chunk.filter (·.head? = some byte)).map (·.drop 1))))

/-- The texts of some parts that are all texts, as bytes. -/
def texts? (parts : List Layout) : Option (List (List Nat)) :=
  parts.mapM fun
    | text codes => some (codes.flatMap bytesOf)
    | _ => none

/-! ### Parts -/

/-- The room of a repetition whose part takes so much room and is never empty, or may be. -/
def repeatedRoom (room : Nat) (nonempty : Bool) (least : Nat) : Option Nat → Nat
  | none =>
    if least = 0 then
      -- what may be empty takes a detour
      if nonempty then room + forkRoom 2 else room + forkRoom 2 + forkRoom 2 + stateRoom
    else least * room + forkRoom 2
  | some greatest =>
    if least = greatest then least * room
    else if least = 0 ∧ greatest = 1 then room + forkRoom 2 + stateRoom
    else
      (if least = 0 then stateRoom else least * room) + stateRoom +
        (greatest - least) * (forkRoom 2 + room)

mutual

/-- The room of the states of a part. -/
def room (backwards : Bool) : Layout → Nat
  | empty | anchor _ => stateRoom
  | text codes => stateRoom * total (codes.map byteCount)
  | set ranges => setRoom backwards ranges
  | group part => room backwards part + if backwards then 0 else 2 * stateRoom
  | sequence parts => totalRoom backwards parts
  | choice parts =>
    match texts? parts with
    | some texts =>
      let texts := if backwards then texts.map List.reverse else texts
      textsRoom ((texts.map List.length).foldl max 0 + 1) texts + stateRoom
    | none => forkRoom parts.length + stateRoom + totalRoom backwards parts
  | repeated part least greatest _ =>
    repeatedRoom (room backwards part) ((shortest? part).any (0 < ·)) least greatest

/-- The room of the states of some parts. -/
def totalRoom (backwards : Bool) : List Layout → Nat
  | [] => 0
  | part :: rest => room backwards part + totalRoom backwards rest

end

end Layout

/-- The room of the greater of the two automata of a pattern. Each has a state before the pattern
and one behind it, and the one that reads forwards keeps the match of the whole pattern. -/
def Pattern.room (pattern : Pattern) : Nat :=
  let layout := Pattern.layout pattern
  max (layout.room false + 4 * Layout.stateRoom) (layout.room true + 2 * Layout.stateRoom)

end Assessment
