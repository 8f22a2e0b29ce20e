import Assessment.Property.Age
import Assessment.Property.Boundary
import Assessment.Property.Script

/-!
# Properties by name

The properties that patterns may name. A single name is looked for among the yes-or-no properties,
the general categories and the scripts, in this order; a name with a value may also ask for an age,
for all scripts that use a character, or for its behaviour at boundaries. A name is compared
without regard to case, without spaces, hyphens, underscores and characters beyond ASCII, and
without a leading `is`.

## Main definitions

- `Property.normalName`: the form in which names are compared.
- `Property.find?`: the set of characters that a property stands for.
-/

namespace Assessment.Property

open Text

/-- A property name in the form in which names are compared. The one name that needs its `is` is
`isc`, which names no property. -/
def normalName (name : List Char) : String :=
  let kept (cs : List Char) :=
    (cs.filter fun c => !(c = ' ' || c = '_' || c = '-') && c.toNat < 0x80).map Char.toLower
  let whole := kept name
  match name.map Char.toLower with
  | 'i' :: 's' :: _ =>
    let rest := kept (name.drop 2)
    String.ofList (if rest = ['c'] then whole else rest)
  | _ => String.ofList whole

/-- The entry of a table under a name in normal form. -/
def named? {α : Type} (table : List (List String × α)) (name : String) : Option α :=
  (table.find? fun entry => entry.1.contains name).map (·.2)

/-- The yes-or-no property of a name in normal form. -/
def yesNo? (name : String) : Option CharSet :=
  (named? listedProperties name).map CharSet.ranges <|> named? reducedProperties name

/-- The general category of a name in normal form. -/
def category? (name : String) : Option CharSet := named? categories name

/-- All scripts. -/
def scripts : List Script :=
  sharedScripts ++ europeanScripts ++ westernScripts ++ indianScripts ++ easternScripts

/-- The script of a name in normal form. -/
def script? (name : String) : Option Script :=
  scripts.find? fun script => script.code = name || script.names.contains name

/-- The characters that are written in a script, whether or not in it alone. -/
def usedIn (script : Script) : CharSet :=
  .union (.difference (.ranges script.ranges) (.ranges extendedRanges))
    (.ranges (extensionRanges script.code))

/-- The characters of the edition of a name in normal form, or of an earlier one. -/
def age? (name : String) : Option CharSet := do
  let (major, minor, _) ← ages.find? fun (major, minor, _) =>
    name = s!"{major}.{minor}" || name = s!"v{major}{minor}"
  (ageRanges? major minor).map CharSet.ranges

/-- The characters whose property `name` has the value `value`. -/
def withValue? (name value : List Char) : Option CharSet :=
  let value := normalName value
  match normalName name with
  | "gc" | "generalcategory" => category? value
  | "sc" | "script" => (script? value).map fun script => .ranges script.ranges
  | "scx" | "scriptextensions" => (script? value).map usedIn
  | "age" => age? value
  | "gcb" | "graphemeclusterbreak" => named? graphemeBreaks value
  | "wb" | "wordbreak" => named? wordBreaks value
  | "sb" | "sentencebreak" => named? sentenceBreaks value
  | _ => none

/-- The characters with the property of a single name. -/
def single? (name : List Char) : Option CharSet :=
  let name := normalName name
  yesNo? name <|> category? name <|> (script? name).map fun script => .ranges script.ranges

/-- The text before and behind the first character that is equal to `mark`. -/
def splitAt? (mark : Char) : List Char → Option (List Char × List Char)
  | [] => none
  | c :: rest =>
    if c = mark then some ([], rest)
    else (splitAt? mark rest).map fun (before, after) => (c :: before, after)

/-- The text before and behind the first `!=`. -/
def splitAtUnequal? : List Char → Option (List Char × List Char)
  | '!' :: '=' :: rest => some ([], rest)
  | c :: rest => (splitAtUnequal? rest).map fun (before, after) => (c :: before, after)
  | [] => none

/-- The characters with a property, which is named alone or together with its value behind a colon
or an equals sign; with `!=` the other characters are meant, which the first component says. -/
def find? (text : List Char) : Option (Bool × CharSet) :=
  match splitAtUnequal? text with
  | some (name, value) => (withValue? name value).map (true, ·)
  | none =>
    match splitAt? ':' text <|> splitAt? '=' text with
    | some (name, value) => (withValue? name value).map (false, ·)
    | none => (single? text).map (false, ·)

end Assessment.Property
