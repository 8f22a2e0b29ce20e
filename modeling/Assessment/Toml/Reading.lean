import Assessment.Toml.Document
import Assessment.Toml.Word

/-!
# Reading TOML

The text of a document of tables: comments, headers, dotted and quoted keys, and values, which are
strings of four kinds, words, lists and tables in braces.

Readers consume a list of characters and give what is left. The length of the text bounds how often
they call each other.
-/

namespace Assessment.Toml

/-! ### White space and comments -/

/-- Skip blanks in a line. -/
def skipBlanks (chars : List Char) : List Char := chars.dropWhile fun c => c = ' ' || c = '\t'

/-- Whether a character may stand in a comment or a string. -/
def isPrintable (c : Char) : Bool := c = '\t' || (0x20 ≤ c.toNat && c.toNat ≠ 0x7F)

/-- Skip the end of a line. -/
def skipNewline : List Char → Option (List Char)
  | '\n' :: rest | '\r' :: '\n' :: rest => some rest
  | _ => none

/-- Skip a comment, if one stands here. -/
def skipComment : List Char → List Char
  | '#' :: rest => rest.dropWhile isPrintable
  | rest => rest

/-- Skip the rest of a line: blanks, a comment and the end. -/
def skipLine (chars : List Char) : Option (List Char) :=
  match skipComment (skipBlanks chars) with
  | [] => some []
  | rest => skipNewline rest

/-- Skip blanks, comments and ends of lines. -/
def skipLines : Nat → List Char → List Char
  | 0, chars => chars
  | fuel + 1, chars =>
    let rest := skipComment (skipBlanks chars)
    match skipNewline rest with
    | some rest => skipLines fuel rest
    | none => rest

/-! ### Strings -/

/-- The character of a letter behind a backslash. -/
def escapes : List (Char × Nat) :=
  [('b', 8), ('t', 9), ('n', 10), ('f', 12), ('r', 13), ('e', 27), ('"', 34), ('\\', 92)]

/-- Read a character by the hexadecimal digits of its code point. -/
def readCode (count : Nat) (chars : List Char) : Option (Char × List Char) := do
  let digits := chars.take count
  if digits.length < count then none
  let values ← digits.mapM hexDigit?
  let code := values.foldl (fun code value => 16 * code + value) 0
  if code.isValidChar then some (Char.ofNat code, chars.drop count) else none

/-- Read what stands behind a backslash. -/
def readEscape : List Char → Option (Char × List Char)
  | 'x' :: rest => readCode 2 rest
  | 'u' :: rest => readCode 4 rest
  | 'U' :: rest => readCode 8 rest
  | c :: rest => (escapes.find? (·.1 = c)).map fun entry => (Char.ofNat entry.2, rest)
  | [] => none

/-- Whether blanks up to the end of a line follow, and what stands behind them and further blank
lines. -/
def skipFold (fuel : Nat) (chars : List Char) : Option (List Char) :=
  (skipNewline (skipBlanks chars)).map (skipBlankLines fuel)
where
  /-- Skip blanks and ends of lines. -/
  skipBlankLines : Nat → List Char → List Char
    | 0, chars => chars
    | fuel + 1, chars =>
      match skipNewline (skipBlanks chars) with
      | some rest => skipBlankLines fuel rest
      | none => skipBlanks chars

/-- The kinds of strings. -/
structure StringKind where
  /-- The quotation mark. -/
  quote : Char
  /-- Whether backslashes begin escapes. -/
  escaping : Bool
  /-- Whether the string runs over several lines, between three marks on each side. -/
  long : Bool

/-- The end of a long string: up to two marks of its own may stand before the three last. -/
def longEnd? (quote : Char) (chars : List Char) : Option (List Char × List Char) :=
  let marks := (chars.takeWhile (· = quote)).length
  if 3 ≤ marks ∧ marks ≤ 5 then
    some (List.replicate (marks - 3) quote, chars.drop marks)
  else none

/-- Read a string behind its opening; `done` are the characters so far, backwards. -/
def readStringBody (kind : StringKind) (done : List Char) :
    Nat → List Char → Option (String × List Char)
  | 0, _ => none
  | fuel + 1, chars =>
    match chars with
    | [] => none
    | c :: rest =>
      if c = kind.quote then
        if !kind.long then some (String.ofList done.reverse, rest)
        else
          match longEnd? kind.quote chars with
          | some (marks, rest) => some (String.ofList (done.reverse ++ marks), rest)
          | none =>
            -- six marks and more do not end a string
            if rest.head? = some kind.quote ∧ rest.tail.head? = some kind.quote then none
            else readStringBody kind (c :: done) fuel rest
      else if c = '\\' && kind.escaping then
        match if kind.long then skipFold fuel rest else none with
        | some rest => readStringBody kind done fuel rest
        | none => do
          let (c, rest) ← readEscape rest
          readStringBody kind (c :: done) fuel rest
      else if isPrintable c then readStringBody kind (c :: done) fuel rest
      else if kind.long then do readStringBody kind ('\n' :: done) fuel (← skipNewline chars)
      else none

/-- Read a string that does not run over several lines. -/
def readShort (quote : Char) (rest : List Char) : Option (String × List Char) :=
  readStringBody ⟨quote, quote = '"', false⟩ [] (rest.length + 1) rest

/-- Read a string that may run over several lines; an end of line at its beginning is skipped. -/
def readLong (quote : Char) (rest : List Char) : Option (String × List Char) :=
  readStringBody ⟨quote, quote = '"', true⟩ [] (rest.length + 1) ((skipNewline rest).getD rest)

/-- Read a string. -/
def readString : List Char → Option (String × List Char)
  | '"' :: '"' :: '"' :: rest => readLong '"' rest
  | '\'' :: '\'' :: '\'' :: rest => readLong '\'' rest
  | '"' :: rest => readShort '"' rest
  | '\'' :: rest => readShort '\'' rest
  | _ => none

/-! ### Keys -/

/-- Read a part of a key. -/
def readKeyPart : List Char → Option (String × List Char)
  | '"' :: rest => readShort '"' rest
  | '\'' :: rest => readShort '\'' rest
  | chars =>
    let name := chars.takeWhile isBare
    if name.isEmpty then none else some (String.ofList name, chars.dropWhile isBare)

/-- Read a key with its dots. -/
def readKey : Nat → List Char → Option (List String × List Char)
  | 0, _ => none
  | fuel + 1, chars => do
    let (part, rest) ← readKeyPart (skipBlanks chars)
    match skipBlanks rest with
    | '.' :: rest => do
      let (parts, rest) ← readKey fuel rest
      some (part :: parts, rest)
    | rest => some ([part], rest)

/-! ### Values -/

/-- How deep lists and tables in braces are nested at most. -/
def maxDepth : Nat := 80

mutual

/-- Read a value that is nested at most `depth` deep. -/
def readValue (depth : Nat) : Nat → List Char → Option (Json × List Char)
  | 0, _ => none
  | fuel + 1, chars =>
    match chars, depth with
    | '"' :: _, _ | '\'' :: _, _ => (readString chars).map fun (text, rest) => (.str text, rest)
    | '[' :: rest, depth + 1 =>
      match skipLines fuel rest with
      | ']' :: rest => some (.arr [], rest)
      | rest => (readItems depth fuel rest).map fun (items, rest) => (.arr items, rest)
    | '\x7b' :: rest, depth + 1 =>
      match skipLines fuel rest with
      | '\x7d' :: rest => some (.obj [], rest)
      | rest => do
        let (statements, rest) ← readPairs depth fuel rest
        some (← documentJson? statements, rest)
    | _, _ => readWord chars

/-- Read the items of a list up to its closing bracket. -/
def readItems (depth : Nat) : Nat → List Char → Option (List Json × List Char)
  | 0, _ => none
  | fuel + 1, chars => do
    let (first, rest) ← readValue depth fuel chars
    match skipLines fuel rest with
    | ']' :: rest => some ([first], rest)
    | ',' :: rest =>
      match skipLines fuel rest with
      | ']' :: rest => some ([first], rest)
      | rest => do
        let (items, rest) ← readItems depth fuel rest
        some (first :: items, rest)
    | _ => none

/-- Read the assignments of a table in braces up to the closing one. -/
def readPairs (depth : Nat) : Nat → List Char → Option (List Statement × List Char)
  | 0, _ => none
  | fuel + 1, chars => do
    let (first, rest) ← readAssignment depth fuel chars
    match skipLines fuel rest with
    | '\x7d' :: rest => some ([first], rest)
    | ',' :: rest =>
      match skipLines fuel rest with
      | '\x7d' :: rest => some ([first], rest)
      | rest => do
        let (others, rest) ← readPairs depth fuel rest
        some (first :: others, rest)
    | _ => none

/-- Read an assignment. -/
def readAssignment (depth : Nat) : Nat → List Char → Option (Statement × List Char)
  | 0, _ => none
  | fuel + 1, chars => do
    let (key, rest) ← readKey fuel chars
    match rest with
    | '=' :: rest => do
      let (value, rest) ← readValue depth fuel (skipBlanks rest)
      some (.assignment key value, rest)
    | _ => none

end

/-! ### Documents -/

/-- Read a header behind its opening bracket. -/
def readHeader (fuel : Nat) (chars : List Char) : Option (Statement × List Char) :=
  match chars with
  | '[' :: rest => do
    match ← readKey fuel rest with
    | (path, ']' :: ']' :: rest) => some (.item path, rest)
    | _ => none
  | rest => do
    match ← readKey fuel rest with
    | (path, ']' :: rest) => some (.header path, rest)
    | _ => none

/-- Read the lines of a document. -/
def readStatements : Nat → List Char → Option (List Statement)
  | 0, _ => none
  | fuel + 1, chars =>
    match skipLines fuel chars with
    | [] => some []
    | '[' :: rest => do
      let (statement, rest) ← readHeader fuel rest
      some (statement :: (← readStatements fuel (← skipLine rest)))
    | chars => do
      let (statement, rest) ← readAssignment maxDepth fuel chars
      some (statement :: (← readStatements fuel (← skipLine rest)))

/-- The document that a text writes, as JSON. A byte order mark may stand first. -/
def read? (text : String) : Option Json :=
  let chars := match text.toList with
    | '\uFEFF' :: rest => rest
    | chars => chars
  readStatements (2 * chars.length + 2) chars >>= documentJson?

end Assessment.Toml
