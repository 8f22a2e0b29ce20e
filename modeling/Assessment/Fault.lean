import Assessment.Expression.Operator
import Assessment.Rule.Basic

/-!
# Faults

What can go wrong while expressions are evaluated and rules are run. A runtime fault is caused by
the values at hand: it is recorded and processing goes on. A logic error is caused by a definition
or a session that does not hold together, and ends the call.
-/

namespace Assessment

/-- A definition or a session does not hold together. -/
inductive LogicError where
  /-- A variable is not declared. -/
  | undeclaredVariable (identifier : Identifier)
  /-- A declared variable has no value in its store. -/
  | missingBinding (identifier : Identifier)
  /-- A reference to an item is not known. -/
  | unknownItem (identifier : Identifier)
  /-- A reference names an item that the test does not hold. -/
  | missingItemDefinition (itemRef item : Identifier)
  /-- An operation is for definitions of another kind. -/
  | wrongSubject (expected : String)
  /-- An operation is for tests only. -/
  | wrongScope (operation : String)
  /-- A session was made for another definition. -/
  | definitionMismatch (expected found : String)
  /-- The plan of a test has no such node, or it is of another kind. -/
  | unknownPlanNode (index : Nat)
  deriving DecidableEq

namespace LogicError

/-- The message of a logic error. -/
def message : LogicError → String
  | undeclaredVariable identifier => "variable " ++ identifier.text ++ " is not declared"
  | missingBinding identifier =>
    "binding store has no slot for declared variable " ++ identifier.text
  | unknownItem identifier => "unknown item reference " ++ identifier.text
  | missingItemDefinition itemRef item =>
    "item reference " ++ itemRef.text ++ " points at missing item definition " ++ item.text
  | wrongSubject expected => "operation requires a " ++ expected ++ " subject"
  | wrongScope operation => operation ++ " is only available while processing a test"
  | definitionMismatch expected found =>
    "session state belongs to definition " ++ found ++ ", expected " ++ expected
  | unknownPlanNode index => "test plan has no node " ++ toString index

/-- The name by which callers tell errors of a kind from others. -/
def kind : LogicError → String
  | undeclaredVariable _ => "UndeclaredVariable"
  | missingBinding _ => "MissingBinding"
  | unknownItem _ => "UnknownItem"
  | missingItemDefinition _ _ => "MissingItemDefinition"
  | wrongSubject _ => "WrongSubject"
  | wrongScope _ => "WrongScope"
  | definitionMismatch _ _ => "DefinitionMismatch"
  | unknownPlanNode _ => "UnknownPlanNode"

end LogicError

/-- Why an extension refused its input. -/
inductive ExtensionError where
  /-- The operands of an operator. -/
  | operands (reason : String)
  /-- The response of an interaction. -/
  | response (reason : String)
  deriving DecidableEq

/-- The message of a refusal. -/
def ExtensionError.message : ExtensionError → String
  | operands reason => "extension rejected operands: " ++ reason
  | response reason => "extension rejected response: " ++ reason

/-- What an operand is that an operator does not take. -/
inductive Mismatch where
  /-- It is not what was expected. -/
  | expected (what : String)
  /-- The variable holds no response. -/
  | notResponse (identifier : Identifier)
  /-- The result cannot be built. -/
  | unbuildable (error : ValueError)

/-- The words for a mismatch. -/
def Mismatch.text : Mismatch → String
  | expected what => "expected " ++ what
  | notResponse identifier => identifier.text ++ " is not a response variable"
  | unbuildable error => error.message

/-- What an operation is not defined for. -/
inductive DomainFault where
  /-- Connectives evaluate their operands themselves. -/
  | lazyConnective
  /-- The result is infinite or no number. -/
  | notFinite
  /-- The result would hold too many scalars. -/
  | tooManyElements
  /-- A position is not positive. -/
  | badIndex (n : Int64)
  /-- A bound is negative. -/
  | negativeBounds
  /-- A number cannot be rounded to so many figures. -/
  | badFigures (figures : Int64) (mode : RoundingMode)
  /-- A range of integers is empty. -/
  | emptyGrid (least greatest step : Int64)
  /-- A range of doubles is empty. -/
  | emptyInterval (least greatest : Float)
  /-- The width of a range of doubles is not finite. -/
  | wideInterval (least greatest : Float)
  /-- A response has no mapping. -/
  | noMapping (identifier : Identifier)
  /-- A response has no area mapping. -/
  | noAreaMapping (identifier : Identifier)

/-- The greatest number of scalars that an operator puts into a container. -/
def maxElements : Nat := 100000

/-- The words for what an operation is not defined for. -/
def DomainFault.text : DomainFault → String
  | lazyConnective => "boolean connectives are evaluated lazily"
  | notFinite => "result is not a finite number"
  | tooManyElements => "result exceeds " ++ toString maxElements ++ " elements"
  | badIndex n => "index " ++ toString n.toInt ++ " is not positive"
  | negativeBounds => "bounds must be non-negative"
  | badFigures figures mode =>
    "invalid figures " ++ toString figures.toInt ++ " for " ++ mode.name
  | emptyGrid least greatest step =>
    "empty range " ++ toString least.toInt ++ "..=" ++ toString greatest.toInt ++ " step "
      ++ toString step.toInt
  | emptyInterval least greatest =>
    "empty range " ++ floatText least ++ "..=" ++ floatText greatest
  | wideInterval least greatest =>
    "range " ++ floatText least ++ "..=" ++ floatText greatest ++ " is too wide to sample"
  | noMapping identifier => "response " ++ identifier.text ++ " has no mapping"
  | noAreaMapping identifier => "response " ++ identifier.text ++ " has no area mapping"

/-- An expression has no value. -/
inductive RuntimeFault where
  /-- An operand is of the wrong type. -/
  | typeMismatch (operation : String) (mismatch : Mismatch)
  /-- A divisor is zero. -/
  | divisionByZero (operation : String)
  /-- An integer leaves the range of words. -/
  | overflow (operation : String)
  /-- An operation is not defined for its operands. -/
  | domain (operation : String) (reason : DomainFault)
  /-- A text is no pattern. -/
  | invalidPattern (pattern detail : String)
  /-- A variable is not declared. -/
  | undeclaredVariable (identifier : Identifier)
  /-- An operator of an extension refused its operands. -/
  | extension (className : String) (error : ExtensionError)
  /-- An operator stands over too few or too many operands. -/
  | arity (operation : String) (expected : Arity) (found : Nat)

/-- The message of a runtime fault. -/
def RuntimeFault.message : RuntimeFault → String
  | typeMismatch operation mismatch => operation ++ ": " ++ mismatch.text
  | divisionByZero operation => operation ++ ": division by zero"
  | overflow operation => operation ++ ": integer overflow"
  | domain operation reason => operation ++ ": " ++ reason.text
  | invalidPattern pattern detail => "invalid pattern \x60" ++ pattern ++ "\x60: " ++ detail
  | undeclaredVariable identifier => "variable " ++ identifier.text ++ " is not declared"
  | extension className error =>
    "custom operator " ++ className ++ " failed: " ++ error.message
  | arity operation expected found =>
    operation ++ " expects " ++ expected.text ++ " operands, found " ++ toString found

/-- The name by which callers tell errors of a kind from others. -/
def RuntimeFault.kind : RuntimeFault → String
  | typeMismatch _ _ => "TypeMismatch"
  | divisionByZero _ => "DivisionByZero"
  | overflow _ => "Overflow"
  | domain _ _ => "Domain"
  | invalidPattern _ _ => "InvalidPattern"
  | undeclaredVariable _ => "UndeclaredVariable"
  | extension _ _ => "Extension"
  | arity _ _ _ => "Arity"

/-- An evaluation ends without a value. -/
inductive Fault where
  /-- The values at hand have none. -/
  | runtime (fault : RuntimeFault)
  /-- The definition or the session does not hold together. -/
  | logic (error : LogicError)

namespace Fault

/-- The fault of a failed look-up: that a variable is not declared depends on the expression. -/
def ofLookup : LogicError → Fault
  | .undeclaredVariable identifier => runtime (.undeclaredVariable identifier)
  | error => logic error

/-- The message of a fault. -/
def message : Fault → String
  | runtime fault => fault.message
  | logic error => error.message

/-- The name by which callers tell faults of a kind from others. -/
def kind : Fault → String
  | runtime fault => "Runtime/" ++ fault.kind
  | logic error => "Logic/" ++ error.kind

end Fault

/-- Why a rule does not assign. -/
inductive AssignmentProblem where
  /-- The variable is not declared. -/
  | undeclared (identifier : Identifier)
  /-- The variable can be read and not assigned. -/
  | readOnly (identifier : Identifier)
  /-- The variable is kept by the session itself. -/
  | maintained (identifier : Identifier)
  /-- The rule assigns variables of another role. -/
  | wrongRole (target : Target) (role : Role) (identifier : Identifier)
  /-- The outcome has no lookup table. -/
  | noLookupTable (identifier : Identifier)
  /-- The value is of another type. -/
  | misfit (value : Value) (signature : Signature) (identifier : Identifier)
  /-- The rule changes declarations where they cannot be changed. -/
  | noOverrides (target : Target)

/-- The message of a problem. -/
def AssignmentProblem.message : AssignmentProblem → String
  | undeclared identifier => "variable " ++ identifier.text ++ " is not declared"
  | readOnly identifier => identifier.text ++ " cannot be assigned here"
  | maintained identifier => identifier.text ++ " is maintained by the engine"
  | wrongRole target role identifier =>
    target.name ++ " cannot target " ++ role.name ++ " variable " ++ identifier.text
  | noLookupTable identifier => identifier.text ++ " declares no lookup table"
  | misfit value signature identifier =>
    "value " ++ value.text ++ " does not fit " ++ signature.text ++ " variable "
      ++ identifier.text
  | noOverrides target => target.name ++ " is not available in this scope"

/-- Why a response is refused. -/
inductive ResponseProblem where
  /-- The item has no such response variable. -/
  | undeclared
  /-- The class of the interaction is not known. -/
  | unsupported (className : String)
  /-- The extension of the interaction refused the response. -/
  | refused (error : ExtensionError)
  /-- The response does not write a value of the variable. -/
  | unreadable (error : ValueError)
  /-- The value is of another type. -/
  | misfit (signature : Signature)
  /-- Every response has to be given. -/
  | missing

/-- The message of a problem. -/
def ResponseProblem.message : ResponseProblem → String
  | undeclared => "not a response variable of this item"
  | unsupported className => "custom interaction " ++ className ++ " is not supported"
  | refused error => error.message
  | unreadable error => error.message
  | misfit signature => "value does not fit " ++ signature.text
  | missing => "a response is required"

end Assessment
