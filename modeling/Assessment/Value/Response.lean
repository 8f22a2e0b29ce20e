import Assessment.Number.Reading
import Assessment.Text.Blank
import Assessment.Value.Building

/-!
# Responses

Candidates answer with text or with a file. A response is bound by reading each text as a scalar
of the declared base type; white space around a text counts only in strings.
-/

namespace Assessment

/-- What a candidate sent for one response variable. -/
inductive ResponseData where
  /-- Texts, one for each scalar. -/
  | strings (entries : List String)
  /-- A file. -/
  | file (data : FileData)

/-- The two words of a text that has exactly two. -/
def twoWords? (text : String) : Option (String × String) :=
  match Text.words text with
  | [a, b] => some (a, b)
  | _ => none

/-- The double of a text, if it is finite. -/
def readFinite (text : String) : Option Float := (readFloat text).filter Float.isFinite

/-- The two identifiers that a text writes. -/
def readIdentifiers (text : String) : Option (Identifier × Identifier) := do
  let (a, b) ← twoWords? text
  some (← Identifier.ofText? a, ← Identifier.ofText? b)

namespace Scalar

/-- The scalar of a base type that a text writes. -/
def read? (baseType : BaseType) (input : String) : Option Scalar :=
  let text := Text.trim input
  match baseType with
  | .boolean =>
    if text = "true" ∨ text = "1" then some (boolean true)
    else if text = "false" ∨ text = "0" then some (boolean false)
    else none
  | .integer => (readInteger text).map integer
  | .float => (readFinite text).map float
  | .duration => ((readFinite text).filter fun seconds => 0.0 ≤ seconds).map duration
  -- texts are kept as they are, white space and all
  | .string => some (string input)
  | .uri => some (uri text)
  | .identifier => (Identifier.ofText? text).map identifier
  | .point => do
    let (x, y) ← twoWords? text
    some (point (← readInteger x) (← readInteger y))
  | .pair => (readIdentifiers text).map fun (a, b) => pair a b
  | .directedPair => (readIdentifiers text).map fun (a, b) => directedPair a b
  -- files do not come as text
  | .file => none

/-- The scalar of a base type that a text writes, or the error that it writes none. -/
def read (baseType : BaseType) (input : String) : Except ValueError Scalar :=
  match read? baseType input with
  | some scalar => .ok scalar
  | none => .error (.unreadable baseType input)

end Scalar

namespace Value

/-- The value that response data gives to a variable of a signature. A single text that is blank
stands for nothing, except for strings, where it is a string. -/
def ofResponse (signature : Signature) (data : ResponseData) : Except ValueError Value :=
  match signature.cardinality, signature.baseType, data with
  | .record, _, _ | _, none, _ => .error (.refused signature .untyped)
  | .single, some .file, .file data => .ok (single (.file data))
  | _, _, .file _ => .error (.refused signature .fileForOther)
  | _, some .file, .strings _ => .error (.refused signature .textForFile)
  | .single, some _, .strings [] => .ok null
  | .single, some baseType, .strings [entry] =>
    if baseType ≠ .string ∧ Text.isBlankText entry then .ok null
    else (Scalar.read baseType entry).map single
  | .single, some _, .strings _ => .error (.refused signature .severalEntries)
  | .multiple, some baseType, .strings entries =>
    entries.mapM (Scalar.read baseType) >>= multipleOf baseType
  | .ordered, some baseType, .strings entries =>
    entries.mapM (Scalar.read baseType) >>= orderedOf baseType

end Value

end Assessment
