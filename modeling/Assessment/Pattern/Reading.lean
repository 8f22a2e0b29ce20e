import Assessment.Pattern.Room
import Assessment.Property.Lookup
import Assessment.Text.Alphanumeric

/-!
# Reading patterns

The syntax of patterns: alternatives, repetition, groups that capture or not, flags, classes with
set operations, escapes and anchors. There is no look-around and there are no back-references, so
every pattern is regular. A text with any other syntax is refused, and so is a pattern that is
nested too deeply or takes too much room.

Readers consume a list of characters and give what is left. Each step of `readSequence` consumes a
character, so the length of the text bounds their number.
-/

namespace Assessment

/-- The flags that are in force at a place of a pattern. -/
structure PatternFlags where
  /-- Letters stand for all their case variants. -/
  ignoreCase : Bool
  /-- Line anchors also match inside of the text. -/
  multiLine : Bool
  /-- A full stop also stands for the end of a line. -/
  dotAll : Bool
  /-- Classes hold the characters of all scripts. -/
  unicode : Bool
  /-- White space and comments are ignored. -/
  verbose : Bool
  /-- Lines may also end with a carriage return. -/
  returns : Bool
  /-- Repetition takes as little as it can unless a mark says otherwise. -/
  swapGreed : Bool

namespace Pattern

/-- The flags in force at the beginning. -/
def noFlags : PatternFlags := ⟨false, false, false, true, false, false, false⟩

/-! ### White space and numbers -/

/-- Skip white space and comments; at the beginning in a comment or not. -/
def skipFrom (inComment : Bool) : List Char → List Char
  | [] => []
  | c :: rest =>
    if inComment then skipFrom (c ≠ '\n') rest
    else if Text.isBlank c then skipFrom false rest
    else if c = '#' then skipFrom true rest
    else c :: rest

/-- Skip what is ignored. -/
def skip (flags : PatternFlags) (chars : List Char) : List Char :=
  if flags.verbose then skipFrom false chars else chars

/-- The next character that is not ignored. The mark of a comment is passed over once, but the text
of the comment is not. -/
def peekFrom (marked : Bool) : List Char → Option Char
  | [] => none
  | c :: rest =>
    if Text.isBlank c then peekFrom marked rest
    else if c = '#' && !marked then peekFrom true rest
    else some c

/-- The next character that is not ignored. -/
def peek (flags : PatternFlags) (chars : List Char) : Option Char :=
  if flags.verbose then peekFrom false chars else chars.head?

/-- The leading digits without what is ignored between and behind them; at the beginning in a
comment or not. -/
def readDigits (flags : PatternFlags) (inComment : Bool) : List Char → List Char × List Char
  | [] => ([], [])
  | c :: rest =>
    if inComment then readDigits flags (c ≠ '\n') rest
    else if c.isDigit then
      let (digits, rest) := readDigits flags false rest
      (c :: digits, rest)
    else if flags.verbose && Text.isBlank c then readDigits flags false rest
    else if flags.verbose && c = '#' then readDigits flags true rest
    else ([], c :: rest)

/-- Read a whole number of 32 bits, with white space on both sides. -/
def readCount (flags : PatternFlags) (chars : List Char) : Option (Nat × List Char) :=
  let (digits, rest) := readDigits flags false (chars.dropWhile Text.isBlank)
  if digits.isEmpty then none
  else
    let count := digits.foldl (fun n c => 10 * n + (c.toNat - 48)) 0
    if count < 0x100000000 then some (count, rest.dropWhile Text.isBlank) else none

/-- Read up to a closing brace, without what is ignored; at the beginning in a comment or not. -/
def readBraced (flags : PatternFlags) (inComment : Bool) :
    List Char → Option (List Char × List Char)
  | [] => none
  | c :: rest =>
    if inComment then readBraced flags (c ≠ '\n') rest
    else if flags.verbose && Text.isBlank c then readBraced flags false rest
    else if flags.verbose && c = '#' then readBraced flags true rest
    else if c = '\x7d' then some ([], rest)
    else (readBraced flags false rest).map fun (text, rest) => (c :: text, rest)

/-- The value of a hexadecimal digit. -/
def hexValue? (c : Char) : Option Nat :=
  if c.isDigit then some (c.toNat - 48)
  else if 'a' ≤ c ∧ c ≤ 'f' then some (c.toNat - 87)
  else if 'A' ≤ c ∧ c ≤ 'F' then some (c.toNat - 55)
  else none

/-- The character whose code point hexadecimal digits write. -/
def hexChar? (digits : List Char) : Option Char := do
  if digits.isEmpty then none
  let code ← digits.foldlM (fun n c => do some (16 * n + (← hexValue? c))) 0
  if code.isValidChar then some (Char.ofNat code) else none

/-- Read so many characters, without what is ignored before them. -/
def readChars (flags : PatternFlags) : Nat → List Char → Option (List Char × List Char)
  | 0, chars => some ([], chars)
  | count + 1, chars =>
    match skip flags chars with
    | c :: rest => (readChars flags count rest).map fun (text, rest) => (c :: text, rest)
    | [] => none

/-! ### Escapes -/

/-- What a class or a sequence may hold. -/
inductive Primitive where
  /-- A character; it may be written as a byte of two hexadecimal digits. -/
  | literal (c : Char) (byte : Bool)
  /-- A set of characters. -/
  | set (set : CharSet)
  /-- An anchor. -/
  | anchor (anchor : Anchor)

/-- The case variants of a set, if case is ignored. -/
def foldSet (flags : PatternFlags) (set : CharSet) : CharSet :=
  if flags.ignoreCase then if flags.unicode then .folded set else .asciiFolded set else set

/-- A set or its complement. -/
def signed (negative : Bool) (set : CharSet) : CharSet :=
  if negative then .complement set else set

/-- The set that a letter stands for behind a backslash. Sets of bytes must be of ASCII. -/
def shorthand? (flags : PatternFlags) (c : Char) : Option CharSet :=
  let ranges? := match c.toLower with
    | 'd' => some (if flags.unicode then Property.decimalDigitRanges else [(0x30, 0x39)])
    | 's' => some (if flags.unicode then Text.blankRanges else [(0x9, 0xD), (0x20, 0x20)])
    | 'w' => some (if flags.unicode then Property.wordRanges else asciiWordRanges)
    | _ => none
  let negative := c.isUpper
  if negative && !flags.unicode then none
  else ranges?.map fun ranges => signed negative (.ranges ranges)

/-- The anchors that stand in braces behind a boundary. -/
def braceAnchors : List (String × WordSide) :=
  [("start", .start), ("end", .stop), ("start-half", .startHalf), ("end-half", .stopHalf)]

/-- The one-letter escapes of characters. -/
def letterEscapes : List (Char × Nat) :=
  [('a', 7), ('f', 12), ('t', 9), ('n', 10), ('r', 13), ('v', 11)]

/-- Read a property behind its letter: a name in braces, or one letter. -/
def readProperty (flags : PatternFlags) (negative : Bool) (chars : List Char) :
    Option (Primitive × List Char) := do
  let (name, rest) ← match skip flags chars with
    | '\x7b' :: rest => readBraced flags false rest
    | c :: rest => some ([c], rest)
    | [] => none
  let (unequal, set) ← Property.find? name
  some (.set (signed (negative != unequal) (foldSet flags set)), rest)

/-- Read the character that a letter and hexadecimal digits write. -/
def readHex (flags : PatternFlags) (letter : Char) (chars : List Char) :
    Option (Primitive × List Char) := do
  match skip flags chars with
  | '\x7b' :: rest =>
    let (digits, rest) ← readBraced flags false rest
    some (.literal (← hexChar? digits) false, rest)
  | chars =>
    let count := if letter = 'x' then 2 else if letter = 'u' then 4 else 8
    let (digits, rest) ← readChars flags count chars
    some (.literal (← hexChar? digits) (letter = 'x'), rest)

/-- Read what may follow the sign of a boundary: its kind in braces. Braces that begin with
anything but a letter or a hyphen are left to be read as a repetition. -/
def readBoundary (flags : PatternFlags) (chars : List Char) : Option (Primitive × List Char) :=
  let plain := some (Primitive.anchor (.word .boundary flags.unicode), chars)
  match chars with
  | '\x7b' :: rest =>
    match skip flags rest with
    | [] => none
    | c :: _ =>
      if c.isAlpha || c = '-' then do
        let (name, rest) ← readBraced flags false rest
        let (_, side) ← braceAnchors.find? (·.1 = String.ofList name)
        some (.anchor (.word side flags.unicode), rest)
      else plain
  | _ => plain

/-- Read what follows a backslash. -/
def readEscape (flags : PatternFlags) : List Char → Option (Primitive × List Char)
  | [] => none
  | c :: rest =>
    if c = 'x' ∨ c = 'u' ∨ c = 'U' then readHex flags c rest
    else if c = 'p' ∨ c = 'P' then
      if flags.unicode then readProperty flags (c = 'P') rest else none
    else if c.toLower = 'd' ∨ c.toLower = 's' ∨ c.toLower = 'w' then
      (shorthand? flags c).map fun set => (.set set, rest)
    else if c = 'A' then some (.anchor .textStart, rest)
    else if c = 'z' then some (.anchor .textEnd, rest)
    else if c = 'b' then readBoundary flags rest
    else if c = 'B' then some (.anchor (.word .noBoundary flags.unicode), rest)
    else if c = '<' then some (.anchor (.word .start flags.unicode), rest)
    else if c = '>' then some (.anchor (.word .stop flags.unicode), rest)
    else match letterEscapes.find? (·.1 = c) with
      | some (_, code) => some (.literal (Char.ofNat code) false, rest)
      | none =>
        if c.toNat < 0x80 && !c.isAlphanum then some (.literal c false, rest) else none

/-! ### Classes -/

/-- The named classes of ASCII. -/
def asciiClasses : List (String × Text.CodeRanges) :=
  [("alnum", [(0x30, 0x39), (0x41, 0x5A), (0x61, 0x7A)]), ("alpha", [(0x41, 0x5A), (0x61, 0x7A)]),
    ("ascii", [(0, 0x7F)]), ("blank", [(0x9, 0x9), (0x20, 0x20)]),
    ("cntrl", [(0, 0x1F), (0x7F, 0x7F)]), ("digit", [(0x30, 0x39)]), ("graph", [(0x21, 0x7E)]),
    ("lower", [(0x61, 0x7A)]), ("print", [(0x20, 0x7E)]),
    ("punct", [(0x21, 0x2F), (0x3A, 0x40), (0x5B, 0x60), (0x7B, 0x7E)]),
    ("space", [(0x9, 0xD), (0x20, 0x20)]), ("upper", [(0x41, 0x5A)]), ("word", asciiWordRanges),
    ("xdigit", [(0x30, 0x39), (0x41, 0x46), (0x61, 0x66)])]

/-- Read a named class behind its opening bracket, and whether its complement is meant. -/
def readAsciiClass : List Char → Option (Bool × Text.CodeRanges × List Char)
  | ':' :: rest =>
    let (negative, rest) := match rest with
      | '^' :: rest => (true, rest)
      | _ => (false, rest)
    let name := rest.takeWhile (· ≠ ':')
    match rest.drop name.length with
    | ':' :: ']' :: rest => do
      let (_, ranges) ← asciiClasses.find? (·.1 = String.ofList name)
      some (negative, ranges, rest)
    | _ => none
  | _ => none

/-- Read one character or escape of a class. -/
def readClassItem (flags : PatternFlags) : List Char → Option (Primitive × List Char)
  | [] => none
  | '\\' :: rest => readEscape flags rest
  | c :: rest => some (.literal c false, rest)

/-- The character of a literal in a class. Classes of bytes hold ASCII only. -/
def classLiteral? (flags : PatternFlags) : Primitive → Option Char
  | .literal c _ => if flags.unicode || c.toNat < 0x80 then some c else none
  | _ => none

/-- Read a range of a class, or a single item. -/
def readClassRange (flags : PatternFlags) (chars : List Char) : Option (CharSet × List Char) := do
  let (first, rest) ← readClassItem flags chars
  let single (rest : List Char) : Option (CharSet × List Char) :=
    match first with
    | .set set => some (set, rest)
    | first => (classLiteral? flags first).map fun c => (.single c, rest)
  match skip flags rest with
  | [] => none
  | '-' :: after =>
    if peek flags after = some ']' ∨ peek flags after = some '-' then single ('-' :: after)
    else do
      let (second, rest) ← readClassItem flags (skip flags after)
      let low ← classLiteral? flags first
      let high ← classLiteral? flags second
      if low ≤ high then some (.ranges [(low.toNat, high.toNat)], rest) else none
  | rest => single rest

/-- An operation that stands between two sets. -/
inductive SetOperation where
  /-- The characters of both. -/
  | intersection
  /-- The characters of the first only. -/
  | difference
  /-- The characters of exactly one. -/
  | symmetric

/-- The result of an operation on two sets. -/
def SetOperation.apply (flags : PatternFlags) (first second : CharSet) : SetOperation → CharSet
  | intersection => .inter (foldSet flags first) (foldSet flags second)
  | difference => .difference (foldSet flags first) (foldSet flags second)
  | symmetric =>
    let first := foldSet flags first
    let second := foldSet flags second
    .union (.difference first second) (.difference second first)

/-- The items of a class that follow one another. -/
structure ClassItems where
  /-- The characters of all items. -/
  set : CharSet
  /-- The number of items. -/
  count : Nat
  /-- The greatest depth of an item. -/
  nesting : Nat

namespace ClassItems

/-- No items. -/
def none : ClassItems := ⟨.none, 0, 0⟩

/-- One more item. -/
def add (items : ClassItems) (set : CharSet) (nesting : Nat) : ClassItems :=
  ⟨.union items.set set, items.count + 1, max items.nesting nesting⟩

/-- How deeply the items are nested: several make a level of their own. -/
def depth (items : ClassItems) : Nat := if items.count ≤ 1 then items.nesting else items.nesting + 1

end ClassItems

/-- The set that was read before an operation, its depth, and the operation. -/
abbrev PendingSet := Option (CharSet × Nat × SetOperation)

/-- The set of a pending operation and what was read behind it, and its depth. -/
def closeSet (flags : PatternFlags) (pending : PendingSet) (items : ClassItems) : CharSet × Nat :=
  match pending with
  | some (first, depth, operation) =>
    (operation.apply flags first items.set, max depth items.depth + 1)
  | none => (items.set, items.depth)

/-- Read literal hyphens at the beginning of a class. -/
def readHyphens (flags : PatternFlags) (items : ClassItems) : List Char → ClassItems × List Char
  | [] => (items, [])
  | c :: rest =>
    if c = '-' then readHyphens flags (items.add (.single '-') 0) rest
    else if flags.verbose && Text.isBlank c then readHyphens flags items rest
    else (items, skip flags (c :: rest))

/-- Read the beginning of a class: a negation, hyphens, and a bracket that is a literal. -/
def readClassOpening (flags : PatternFlags) (chars : List Char) : Bool × ClassItems × List Char :=
  let chars := skip flags chars
  let (negative, chars) := match chars with
    | '^' :: rest => (true, skip flags rest)
    | _ => (false, chars)
  let (items, rest) := readHyphens flags .none chars
  match rest with
  | ']' :: after =>
    -- a bracket at the very beginning stands for itself
    if items.count = 0 then (negative, items.add (.single ']') 0, skip flags after)
    else (negative, items, rest)
  | _ => (negative, items, rest)

/-- Read a class up to its closing bracket, and how deeply it is nested. -/
def readClassBody (flags : PatternFlags) (negative : Bool) :
    Nat → PendingSet → ClassItems → List Char → Option (CharSet × Nat × List Char)
  | 0, _, _, _ => none
  | fuel + 1, pending, items, chars =>
    let operate (operation : SetOperation) (rest : List Char) :=
      let (first, depth) := closeSet flags pending items
      readClassBody flags negative fuel (some (first, depth, operation)) .none rest
    match skip flags chars with
    | [] => none
    | ']' :: rest =>
      let (set, depth) := closeSet flags pending items
      let set := signed negative (foldSet flags set)
      -- without scripts a class is one of bytes, and no byte beyond ASCII is a character
      if flags.unicode || set.isAscii then some (set, depth + 1, rest) else none
    | '[' :: rest =>
      -- what is no named class is a class of its own
      match readAsciiClass rest with
      | some (negated, ranges, rest) =>
        if negated && !flags.unicode then none
        else
          let set := signed negated (foldSet flags (.ranges ranges))
          readClassBody flags negative fuel pending (items.add set 0) rest
      | none => do
        let (innerNegative, innerItems, inner) := readClassOpening flags rest
        let (set, depth, rest) ← readClassBody flags innerNegative fuel none innerItems inner
        readClassBody flags negative fuel pending (items.add set depth) rest
    | '&' :: '&' :: rest => operate .intersection rest
    | '-' :: '-' :: rest => operate .difference rest
    | '~' :: '~' :: rest => operate .symmetric rest
    | chars => do
      let (set, rest) ← readClassRange flags chars
      readClassBody flags negative fuel pending (items.add set 0) rest

/-- Read a class behind its opening bracket, and how deeply it is nested. -/
def readClass (flags : PatternFlags) (chars : List Char) : Option (CharSet × Nat × List Char) :=
  let (negative, items, rest) := readClassOpening flags chars
  readClassBody flags negative (rest.length + 1) none items rest

/-! ### Groups and flags -/

/-- Set or clear the flag of a letter. -/
def setFlag? (flags : PatternFlags) (value : Bool) : Char → Option PatternFlags
  | 'i' => some { flags with ignoreCase := value }
  | 'm' => some { flags with multiLine := value }
  | 's' => some { flags with dotAll := value }
  | 'u' => some { flags with unicode := value }
  | 'x' => some { flags with verbose := value }
  | 'R' => some { flags with returns := value }
  | 'U' => some { flags with swapGreed := value }
  | _ => none

/-- Read flags up to the character that ends them. `seen` are the letters so far, `value` is what
the next flag is set to, and a minus sign needs a flag behind it. -/
def readFlags (flags : PatternFlags) (seen : List Char) (value : Bool) :
    List Char → Option (PatternFlags × List Char × Char × List Char)
  | [] => none
  | c :: rest =>
    if c = ':' ∨ c = ')' then
      if seen.head? = some '-' then none else some (flags, seen, c, rest)
    else if seen.contains c then none
    else if c = '-' then readFlags flags (c :: seen) false rest
    else do readFlags (← setFlag? flags value c) (c :: seen) value rest

/-- What an opening parenthesis begins. -/
inductive Opening where
  /-- New flags for the rest of the group. -/
  | flags (flags : PatternFlags)
  /-- A group with its flags, whether its match is kept, and its name, if it has one. -/
  | group (flags : PatternFlags) (captures : Bool) (name : Option String)

/-- Whether a text may name a group. -/
def isGroupName (name : List Char) : Bool :=
  match name with
  | [] => false
  | first :: rest =>
    (first = '_' || Text.isAlphabetic first) &&
      rest.all fun c => c = '_' || c = '.' || c = '[' || c = ']' || Text.isAlphanumeric c

/-- Read a group name up to its closing angle bracket. -/
def readGroupName (flags : PatternFlags) (chars : List Char) : Option (Opening × List Char) :=
  let name := chars.takeWhile (· ≠ '>')
  match chars.drop name.length with
  | _ :: rest =>
    if isGroupName name then some (.group flags true (some (String.ofList name)), rest) else none
  | [] => none

/-- Read what stands behind an opening parenthesis. -/
def readOpening (flags : PatternFlags) (chars : List Char) : Option (Opening × List Char) :=
  match skip flags chars with
  | '?' :: '=' :: _ | '?' :: '!' :: _ | '?' :: '<' :: '=' :: _ | '?' :: '<' :: '!' :: _ => none
  | '?' :: 'P' :: '<' :: rest | '?' :: '<' :: rest => readGroupName flags rest
  | '?' :: rest => do
    let (inner, seen, last, rest) ← readFlags flags [] true rest
    if last = ':' then some (.group inner false none, rest)
    else if seen.isEmpty then none
    else some (.flags inner, rest)
  | rest => some (.group flags true none, rest)

/-! ### Sequences -/

/-- The pattern of one character. -/
def literal? (flags : PatternFlags) (c : Char) (byte : Bool) : Option Pattern :=
  if flags.unicode || c.toNat < 0x80 then some (.one (foldSet flags (.single c)) 0)
  else if byte then none
  else some (.one (.single c) 0)

/-- The pattern of a full stop. -/
def dot? (flags : PatternFlags) : Option Pattern :=
  if !flags.unicode then none
  else if flags.dotAll then some (.one .all 0)
  else if flags.returns then some (.one (.complement (.ranges [(10, 10), (13, 13)])) 0)
  else some (.one (.complement (.ranges [(10, 10)])) 0)

/-- The pattern of a primitive. -/
def ofPrimitive? (flags : PatternFlags) : Primitive → Option Pattern
  | .literal c byte => literal? flags c byte
  | .set set => some (.one set 0)
  | .anchor a => some (.anchor a)

/-- The items of a sequence, backwards; flags leave an item that cannot be repeated. -/
abbrev Items := List (Option Pattern)

/-- The pattern of a sequence. -/
def sequenceOf (items : Items) : Pattern :=
  match items.reverse.map (·.getD .empty) with
  | [] => .empty
  | [pattern] => pattern
  | patterns => .sequence patterns

/-- The pattern of alternatives, of which those before the last stand backwards. -/
def choiceOf (last : Pattern) (before : List Pattern) : Pattern :=
  if before.isEmpty then last else .choice (before.reverse ++ [last])

/-- How often something is repeated, and whether as often as possible. -/
structure Repetition where
  /-- The least number of times. -/
  least : Nat
  /-- The greatest number of times, if there is one. -/
  greatest : Option Nat
  /-- Whether as often as possible. -/
  greedy : Bool

/-- Repeat the last item. -/
def repeatLast? (flags : PatternFlags) (repetition : Repetition) : Items → Option Items
  | some pattern :: rest =>
    let greedy := repetition.greedy != flags.swapGreed
    some (some (.repeated pattern repetition.least repetition.greatest greedy) :: rest)
  | _ => none

/-- Read the mark of a repetition that takes as little as it can. -/
def readLazy (least : Nat) (greatest : Option Nat) : List Char → Repetition × List Char
  | '?' :: rest => (⟨least, greatest, false⟩, rest)
  | rest => (⟨least, greatest, true⟩, rest)

/-- Read the bounds of a repetition behind the opening brace. -/
def readBounds (flags : PatternFlags) (chars : List Char) : Option (Repetition × List Char) := do
  let (least, rest) ← readCount flags (skip flags chars)
  match rest with
  | '\x7d' :: rest => some (readLazy least (some least) (skip flags rest))
  | ',' :: rest =>
    match skip flags rest with
    | '\x7d' :: rest => some (readLazy least none (skip flags rest))
    | rest => do
      let (greatest, rest) ← readCount flags rest
      match rest with
      | '\x7d' :: rest =>
        if least ≤ greatest then some (readLazy least (some greatest) (skip flags rest)) else none
      | _ => none
  | _ => none

/-- Read alternatives up to the end of a group or of the text. `done` are the alternatives before
the current one, `items` the items of the current one, both backwards, and `names` the names of
groups so far. -/
def readSequence : Nat → PatternFlags → List String → List Pattern → Items → List Char →
    Option (Pattern × List String × List Char)
  | 0, _, _, _, _, _ => none
  | fuel + 1, flags, names, done, items, chars =>
    let add (pattern : Pattern) (rest : List Char) :=
      readSequence fuel flags names done (some pattern :: items) rest
    let again (repetition : Repetition × List Char) := do
      readSequence fuel flags names done (← repeatLast? flags repetition.1 items) repetition.2
    match skip flags chars with
    | [] => some (choiceOf (sequenceOf items) done, names, [])
    | ')' :: rest => some (choiceOf (sequenceOf items) done, names, ')' :: rest)
    | '|' :: rest => readSequence fuel flags names (sequenceOf items :: done) [] rest
    | '(' :: rest => do
      match ← readOpening flags rest with
      -- the new flags hold up to the end of the group
      | (.flags inner, rest) => readSequence fuel inner names done (none :: items) rest
      | (.group inner captures name, rest) =>
        -- no two groups have one name
        if name.any names.contains then none
        let (pattern, names, rest) ← readSequence fuel inner (name.toList ++ names) [] [] rest
        match rest with
        | ')' :: rest =>
          readSequence fuel flags names done (some (.group captures pattern) :: items) rest
        | _ => none
    | '*' :: rest => again (readLazy 0 none rest)
    | '+' :: rest => again (readLazy 1 none rest)
    | '?' :: rest => again (readLazy 0 (some 1) rest)
    | '\x7b' :: rest => do again (← readBounds flags rest)
    | '[' :: rest => do
      let (set, nesting, rest) ← readClass flags rest
      add (.one set nesting) rest
    | '.' :: rest => do add (← dot? flags) rest
    | '^' :: rest =>
      add (.anchor (if flags.multiLine then .lineStart flags.returns else .textStart)) rest
    | '$' :: rest =>
      add (.anchor (if flags.multiLine then .lineEnd flags.returns else .textEnd)) rest
    | '\\' :: rest => do
      let (primitive, rest) ← readEscape flags rest
      add (← ofPrimitive? flags primitive) rest
    | c :: rest => do add (← literal? flags c false) rest

/-- Why a text is no pattern. -/
inductive PatternError where
  /-- It is not written as patterns are, or nested too deeply. -/
  | illFormed
  /-- It takes too much room. -/
  | tooLarge

/-- How deeply a pattern may be nested. -/
def maxDepth : Nat := 250

/-- The greatest room that a pattern may take, in bytes. -/
def maxRoom : Nat := 10485760

/-- The message of an error. -/
def PatternError.message : PatternError → String
  | illFormed => "regex parse error"
  | tooLarge => "Compiled regex exceeds size limit of " ++ toString maxRoom ++ " bytes."

/-- The pattern that a text writes. -/
def read (text : String) : Except PatternError Pattern :=
  match readSequence (text.length + 1) noFlags [] [] [] text.toList with
  | some (pattern, _, []) =>
    if maxDepth < pattern.depth then .error .illFormed
    else if maxRoom < pattern.room then .error .tooLarge
    else .ok pattern
  | _ => .error .illFormed

/-- The pattern that matches whole texts only. -/
def readWhole (text : String) : Except PatternError Pattern := read ("^(?:" ++ text ++ ")$")

end Pattern

end Assessment
