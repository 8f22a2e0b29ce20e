/-!
# Parts of lists

Whether a list occurs in another as a block, for a given equality of elements.
-/

namespace Assessment

variable {α : Type}

/-- Whether a list begins with another. -/
def beginsWith (same : α → α → Bool) : List α → List α → Bool
  | _, [] => true
  | [], _ :: _ => false
  | a :: list, b :: part => same a b && beginsWith same list part

/-- Whether a list holds another as a block of neighbours. -/
def hasBlock (same : α → α → Bool) (part : List α) : List α → Bool
  | [] => part.isEmpty
  | a :: rest => beginsWith same (a :: rest) part || hasBlock same part rest

/-- Whether a text occurs in another. -/
def isPartOf (part text : String) : Bool := hasBlock (· == ·) part.toList text.toList

end Assessment
