import Assessment.Element.Vocabulary
import Assessment.Evaluation.Environment

/-!
# Building from elements

Rules and expressions from the elements that write them. Operators of extensions that no package
knows are reported and kept: they will have no value.

A condition holds one element for its first branch, then any number for further branches, and last
an element for what is done otherwise. Their tags end in `If`, `ElseIf` and `Else`.
-/

namespace Assessment

/-- A step that builds from elements and may report something. -/
abbrev Building : Type → Type := Action NotificationLog BuildError

/-- The place of an element in a condition. -/
inductive BranchForm where
  /-- The first branch. -/
  | first
  /-- A further branch. -/
  | further
  /-- What is done otherwise. -/
  | otherwise
  deriving DecidableEq

namespace BranchForm

/-- The place that a tag tells. -/
def ofTag? (tag : String) : Option BranchForm :=
  if tag.endsWith "ElseIf" then some further
  else if tag.endsWith "If" then some first
  else if tag.endsWith "Else" then some otherwise
  else none

/-- Whether an element may stand at its place: the first branch at the beginning and only there, and
nothing behind what is done otherwise. -/
def fits (atStart closed : Bool) : Option BranchForm → Bool
  | some first => atStart
  | some further | some otherwise => !atStart && !closed
  | none => false

end BranchForm

namespace Element

/-- The one element in an element. -/
def onlyChild : Element → Except BuildError Element
  | mk _ _ [child] _ => .ok child
  | mk tag _ children _ => .error (.childCount tag (.exactly 1) children.length)

/-- Report an operator that no package knows. -/
def reportCustom (registry : Registry) (className : String) : Building Unit :=
  if (registry.operator? className).isSome then pure ()
  else
    modify fun log =>
      log.record ⟨.warning, .construction, "customOperator[" ++ className ++ "]",
        .unsupportedConstruction className⟩

mutual

/-- The expression that an element writes. -/
def toExpression (vocabulary : Vocabulary) (registry : Registry) :
    Element → Building Expression
  | mk tag attributes children text => do
    let element := mk tag attributes children text
    -- an entry for expressions comes before one for operators of the same tag
    match vocabulary.expressions.get? tag, vocabulary.operators.get? tag with
    | some (.leaf build), _ => Action.ofExcept (build element)
    | some .custom, _ => do
      let className ← Action.ofExcept (element.required "class")
      -- reported before the operands are built, and kept all the same
      reportCustom registry className
      return .custom className (← toExpressions vocabulary registry children)
    | none, some build => do
      let operator ← Action.ofExcept (build element)
      return .apply operator (← toExpressions vocabulary registry children)
    | none, none => throw (.unknownElement tag)

/-- The expressions that several elements write. -/
def toExpressions (vocabulary : Vocabulary) (registry : Registry) :
    List Element → Building (List Expression)
  | [] => return []
  | first :: rest => do
    let expression ← toExpression vocabulary registry first
    return expression :: (← toExpressions vocabulary registry rest)

end

/-- The expression that the one element in an element writes. -/
def onlyExpression (vocabulary : Vocabulary) (registry : Registry) (element : Element) :
    Building Expression := do
  toExpression vocabulary registry (← Action.ofExcept element.onlyChild)

mutual

/-- The rule that an element writes. -/
def toRule (vocabulary : Vocabulary) (registry : Registry) : Element → Building Rule
  | mk tag attributes children text => do
    let element := mk tag attributes children text
    match vocabulary.rules.get? tag with
    | none => throw (.unknownElement tag)
    | some (.leaf build) => Action.ofExcept (build element)
    | some (.assignment target) => do
      let name ← Action.ofExcept (Vocabulary.nameOf element "identifier")
      return .assign target name (← onlyExpression vocabulary registry element)
    | some .constraint => return .constraint (← onlyExpression vocabulary registry element)
    | some .condition => do
      let (branches, otherwise) ← toBranches vocabulary registry tag true none children
      if branches.isEmpty then throw (.childCount tag (.atLeast 1) 0)
      return .condition branches otherwise

/-- The rules that several elements write. -/
def toRules (vocabulary : Vocabulary) (registry : Registry) : List Element → Building (List Rule)
  | [] => return []
  | first :: rest => do
    let rule ← toRule vocabulary registry first
    return rule :: (← toRules vocabulary registry rest)

/-- The branches that the elements of a condition write, behind what was read so far: nothing yet,
or branches and perhaps the rules for the other case. -/
def toBranches (vocabulary : Vocabulary) (registry : Registry) (condition : String)
    (atStart : Bool) (otherwise : Option (List Rule)) :
    List Element → Building (List Branch × Option (List Rule))
  | [] => return ([], otherwise)
  | mk tag _ children _ :: rest => do
    let form := BranchForm.ofTag? tag
    if !BranchForm.fits atStart otherwise.isSome form then
      throw (.unknownElement (condition ++ "/" ++ tag))
    if form = some .otherwise then do
      let rules ← toRules vocabulary registry children
      toBranches vocabulary registry condition false (some rules) rest
    else
      match children with
      | [] => throw (.childCount tag (.atLeast 1) 0)
      | guard :: actions => do
        let test ← toExpression vocabulary registry guard
        let rules ← toRules vocabulary registry actions
        let (branches, otherwise) ←
          toBranches vocabulary registry condition false otherwise rest
        return (.mk test rules :: branches, otherwise)

end

/-- Whether a tag stands for a list of rules. -/
def isProcessing (tag : String) : Bool :=
  tag = "templateProcessing" || tag = "responseProcessing" || tag = "outcomeProcessing"

/-- The list of rules that an element writes. -/
def toProcessing (vocabulary : Vocabulary) (registry : Registry) (element : Element) :
    Building (List Rule) :=
  if isProcessing element.tag then toRules vocabulary registry element.children
  else throw (.unknownElement element.tag)

end Element

end Assessment
