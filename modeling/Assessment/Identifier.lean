import Assessment.Text.Alphanumeric

/-!
# Identifiers

Names of variables, items and other parts of a test. A legal name starts with an alphabetic
character or an underscore and goes on with alphanumeric characters, underscores, hyphens and full
stops. Identifiers are compared by the code points of their text.
-/

namespace Assessment

/-- Whether a text is a legal name. -/
def isLegalName (text : String) : Bool :=
  match text.toList with
  | [] => false
  | first :: rest =>
    (Text.isAlphabetic first || first = '_') &&
      rest.all fun c => Text.isAlphanumeric c || c = '_' || c = '-' || c = '.'

/-- A legal name. -/
structure Identifier where
  /-- The text of the name. -/
  text : String
  /-- The text is a legal name. -/
  legal : isLegalName text = true
  deriving DecidableEq

namespace Identifier

instance : ToString Identifier := ⟨text⟩

instance : Ord Identifier := ⟨fun a b => compare a.text b.text⟩

instance : Std.TransOrd Identifier where
  eq_swap := fun {a b} => by
    have h : compare a.text b.text = (compare b.text a.text).swap := Std.OrientedCmp.eq_swap
    exact h
  isLE_trans := fun {a b c} hab hbc => by
    have h : (compare a.text b.text).isLE → (compare b.text c.text).isLE →
        (compare a.text c.text).isLE := Std.TransCmp.isLE_trans
    exact h hab hbc

instance : Std.LawfulEqOrd Identifier where
  compare_self := fun {a} => by
    have h : compare a.text a.text = .eq := Std.ReflCmp.compare_self
    exact h
  eq_of_compare := fun {a b} h => by
    have h : compare a.text b.text = .eq := h
    have h : a.text = b.text := Std.LawfulEqCmp.eq_of_compare h
    cases a; cases b; cases h; rfl

/-- Identifiers are told apart by their texts. -/
theorem text_inj {name other : Identifier} : name.text = other.text ↔ name = other := by
  cases name
  cases other
  simp

/-- The identifier with a text, if the text is legal. -/
def ofText? (text : String) : Option Identifier :=
  if legal : isLegalName text = true then some ⟨text, legal⟩ else none

theorem text_of_ofText? {text : String} {identifier : Identifier}
    (h : ofText? text = some identifier) : identifier.text = text := by
  unfold ofText? at h
  split at h
  · cases h; rfl
  · cases h

@[simp]
theorem ofText?_text (identifier : Identifier) : ofText? identifier.text = some identifier := by
  simp [ofText?, identifier.legal]

/-- The two halves of a qualified name: what stands before and after its first full stop, if both
are legal. -/
def split? (identifier : Identifier) : Option (Identifier × Identifier) :=
  let chars := identifier.text.toList
  match chars.dropWhile (· != '.') with
  | _ :: rest => do
    let before ← ofText? (String.ofList (chars.takeWhile (· != '.')))
    let after ← ofText? (String.ofList rest)
    some (before, after)
  | [] => none

/-- The branch target that ends a test. -/
def exitTest : Identifier := ⟨"EXIT_TEST", by decide +kernel⟩

/-- Whether a branch target ends the test. -/
def isExitTest (identifier : Identifier) : Bool := identifier.text = exitTest.text

end Identifier

end Assessment
