import Assessment.Evaluation.Numeric
import Assessment.Pattern.Reading
import Assessment.Random.Source
import Assessment.Text.Lowercase
import Assessment.Text.Part

/-!
# Built-in operators

What each operator makes of its operands. Nearly all operators give nothing as soon as one operand
is nothing; those that do not are tried first. Records are operands of few operators.

## Main definitions

- `Operator.apply`: the value of an operator over a list of operands.
- `collect`: the container of several operands.
- `Tolerance.accepts`: numbers that are close enough.
-/

namespace Assessment

/-- The fault of an operand that is not what an operation expects. -/
def expecting (operation what : String) : RuntimeFault := .typeMismatch operation (.expected what)

namespace Operand

/-- The first operand. -/
def first (operation : String) : List Value → Except RuntimeFault Value
  | value :: _ => .ok value
  | [] => .error (expecting operation "an operand")

/-- The first two operands. -/
def two (operation : String) : List Value → Except RuntimeFault (Value × Value)
  | a :: b :: _ => .ok (a, b)
  | _ => .error (expecting operation "two operands")

/-- The result of a reading, or the fault of an operand that is not as expected. -/
def orExpecting {α : Type} (operation what : String) : Option α → Except RuntimeFault α
  | some a => .ok a
  | none => .error (expecting operation what)

/-- The truth value of an operand. -/
def boolean (operation : String) (value : Value) : Except RuntimeFault Bool :=
  orExpecting operation "single boolean" value.bool?

/-- The text of an operand. -/
def string (operation : String) (value : Value) : Except RuntimeFault String :=
  orExpecting operation "single string" value.string?

/-- The word of an operand. -/
def word (operation : String) (value : Value) : Except RuntimeFault Int64 :=
  orExpecting operation "single integer" value.word?

/-- The seconds of an operand. -/
def seconds (operation : String) (value : Value) : Except RuntimeFault Float :=
  orExpecting operation "single duration" value.seconds?

/-- The container of an operand. -/
def container (operation : String) (value : Value) : Except RuntimeFault Container :=
  orExpecting operation "multiple or ordered container" value.container?

/-- The number of a scalar. -/
def scalarNumber (operation : String) : Scalar → Except RuntimeFault Number
  | .integer n => .ok (.word n)
  | .float x => .ok (.double x)
  | _ => .error (expecting operation "integer or float")

/-- The number of an operand. -/
def number (operation : String) (value : Value) : Except RuntimeFault Number := do
  scalarNumber operation (← orExpecting operation "single integer or float" value.scalar?)

/-- The word of a scalar. -/
def scalarWord (operation : String) : Scalar → Except RuntimeFault Int64
  | .integer n => .ok n
  | _ => .error (expecting operation "integer")

/-- The scalars of all operands. -/
def scalars (operands : List Value) : List Scalar := operands.flatMap Value.elements

/-- The words of all operands. -/
def words (operation : String) (operands : List Value) : Except RuntimeFault (List Int64) :=
  (scalars operands).mapM (scalarWord operation)

/-- The numbers of all operands; a record has none. -/
def numbers (operation : String) (operands : List Value) : Except RuntimeFault (List Number) :=
  (scalars operands).mapM (scalarNumber operation)

/-- The numbers of one operand, which may be no record. -/
def addends (operation : String) (value : Value) : Except RuntimeFault (List Number) :=
  match value with
  | .record _ => .error (expecting operation "single or container of numbers")
  | value => value.elements.mapM (scalarNumber operation)

end Operand

open Operand

/-! ### Containers -/

/-- The value of a base type and scalars, or the fault that they do not make one. -/
def buildContainer (operation : String) (ordered : Bool) (baseType : BaseType)
    (items : List Scalar) : Except RuntimeFault Value :=
  match (if ordered then Value.orderedOf baseType items else Value.multipleOf baseType items) with
  | .ok value => .ok value
  | .error error => .error (.typeMismatch operation (.unbuildable error))

/-- Add the scalars of an operand to those collected so far, with their base type. -/
def gather (operation : String) (cardinality : Cardinality)
    (collected : Option BaseType × List Scalar) (operand : Value) :
    Except RuntimeFault (Option BaseType × List Scalar) :=
  -- nothing adds nothing, and it does not count as of another type
  if operand.isNull then .ok collected
  else if operand.cardinality? ≠ some .single ∧ operand.cardinality? ≠ some cardinality then
    .error (expecting operation ("single or " ++ cardinality.name ++ " operands"))
  else if collected.1.isSome ∧ operand.baseType? ≠ collected.1 then
    .error (expecting operation "operands of one base type")
  else .ok (operand.baseType?, collected.2 ++ operand.elements)

/-- The container of the scalars of several operands, so many times over. -/
def collect (operation : String) (operands : List Value) (ordered : Bool) (times : Nat) :
    Except RuntimeFault Value := do
  let cardinality := if ordered then Cardinality.ordered else Cardinality.multiple
  let (baseType?, items) ← operands.foldlM (gather operation cardinality) (none, [])
  match baseType? with
  | none => .ok .null
  | some baseType =>
    -- the length is known before the list is made, so a great count costs nothing
    if maxElements < items.length * times then .error (.domain operation .tooManyElements)
    else buildContainer operation ordered baseType (List.replicate times items).flatten

/-- How many scalars an operand holds. -/
def elementCount (operation : String) (value : Value) : Except RuntimeFault Value :=
  if value.isNull then .ok (.integer 0)
  else do .ok (.integer (Int64.ofNat (← container operation value).items.length))

/-- The value of a scalar that may be missing. -/
def ofScalar? : Option Scalar → Value
  | some scalar => .single scalar
  | none => .null

/-- The scalar at a position that counts from one. -/
def elementAt (operation : String) (value : Value) (n : Int64) : Except RuntimeFault Value :=
  match value with
  | .ordered container =>
    if n < 1 then .error (.domain operation (.badIndex n))
    -- a position beyond the end is no fault: there is no scalar, so the value is nothing
    else .ok (ofScalar? container.items[n.toInt.toNat - 1]?)
  | _ => .error (expecting operation "ordered container")

/-- A scalar and a container of the same base type. -/
def needleAndContainer (operation : String) (operands : List Value) :
    Except RuntimeFault (Scalar × Container) := do
  let (a, b) ← two operation operands
  let needle ← orExpecting operation "single first operand" a.scalar?
  let haystack ← container operation b
  if haystack.baseType ≠ needle.baseType then
    .error (expecting operation "operands of one base type")
  else .ok (needle, haystack)

/-- A container without the scalars that are equal to a given one. -/
def remove (operation : String) (operands : List Value) : Except RuntimeFault Value := do
  let (needle, haystack) ← needleAndContainer operation operands
  let kept := haystack.items.filter fun scalar => !(scalar == needle)
  -- the result keeps the arrangement of the container, not that of the scalar
  let ordered := match operands with
    | _ :: .ordered _ :: _ => true
    | _ => false
  buildContainer operation ordered haystack.baseType kept

/-- Whether the first container holds the second: each scalar as often, or all as one block. -/
def includes (operation : String) (operands : List Value) : Except RuntimeFault Value := do
  match ← two operation operands with
  | (.multiple haystack, .multiple needle) =>
    if haystack.baseType ≠ needle.baseType then
      .error (expecting operation "operands of one base type")
    -- without order: every scalar is taken out as often as it is asked for
    else .ok (.boolean (Scalar.takeOutAll needle.items haystack.items).isSome)
  | (.ordered haystack, .ordered needle) =>
    if haystack.baseType ≠ needle.baseType then
      .error (expecting operation "operands of one base type")
    -- with order: the scalars have to be neighbours
    else .ok (.boolean (hasBlock Scalar.same needle.items haystack.items))
  | _ => .error (expecting operation "two containers of one cardinality")

/-! ### Logic and comparison -/

/-- The value of a truth value; nothing if it is unknown. -/
def ofTriState : TriState → Value
  | .yes => .boolean true
  | .no => .boolean false
  | .unknown => .null

/-- Whether the number of true operands is between two bounds. -/
def countTrue (operation : String) (operands : List Value) (least greatest : Int64) :
    Except RuntimeFault Value :=
  if least < 0 ∨ greatest < 0 then .error (.domain operation .negativeBounds)
  else do
    let states ← operands.mapM fun value => orExpecting operation "single boolean" value.triState?
    .ok (ofTriState (TriState.between least.toInt.toNat greatest.toInt.toNat (.of states)))

/-- Whether two values of one type are equal. Durations are not compared. -/
def equalValue (operation : String) (a b : Value) : Except RuntimeFault Value :=
  if a.cardinality? ≠ b.cardinality? ∨ a.baseType? ≠ b.baseType? then
    .error (expecting operation "operands of one cardinality and base type")
  else if a.baseType? = some .duration then .error (expecting operation "non-duration operands")
  else .ok (.boolean (a == b))

/-- Whether a whole text matches a pattern. -/
def matchesPattern (operation : String) (value : Value) (pattern : String) :
    Except RuntimeFault Value := do
  let text ← string operation value
  match Pattern.readWhole pattern with
  | .ok compiled => .ok (.boolean (compiled.occursIn text))
  | .error error => .error (.invalidPattern pattern error.message)

/-- A text as it is, or in lower case where case does not count. -/
def caseForm (caseSensitive : Bool) (text : String) : String :=
  if caseSensitive then text else Text.lowercase text

/-- The numbers that are close enough to one. -/
def EqualityTest.accepts (test : EqualityTest) (x y : Float) : Bool :=
  let lower := test.tolerance[0]?.getD 0.0
  let upper := (test.tolerance[1]? <|> test.tolerance[0]?).getD 0.0
  let between (low high : Float) : Bool :=
    -- a relative tolerance around a negative number gives its ends the wrong way round
    let (low, high) := if low ≤ high then (low, high) else (high, low)
    (if test.includeLower then low ≤ y else low < y) &&
      (if test.includeUpper then y ≤ high else y < high)
  match test.mode with
  | .exact => x == y
  | .absolute => between (x - lower) (x + upper)
  | .relative => between (x * (1.0 - lower / 100.0)) (x * (1.0 + upper / 100.0))

/-- Whether two words stand in an order. -/
def Comparison.holdsWords (a b : Int64) : Comparison → Bool
  | lt => a < b
  | gt => b < a
  | lte => a ≤ b
  | gte => b ≤ a

/-- Whether two doubles stand in an order. -/
def Comparison.holdsDoubles (a b : Float) : Comparison → Bool
  | lt => a < b
  | gt => b < a
  | lte => a ≤ b
  | gte => b ≤ a

/-- Whether two numbers stand in an order. -/
def Comparison.holds (comparison : Comparison) : Number → Number → Bool
  | .word a, .word b => comparison.holdsWords a b
  | a, b => comparison.holdsDoubles a.toFloat b.toFloat

/-- The first of the words that no other is before in an order. -/
def extremeWord (before : Int64 → Int64 → Bool) : List Int64 → Value
  | [] => .null
  | first :: rest => .integer (rest.foldl (fun best n => if before n best then n else best) first)

/-- The first of the doubles that no later one is before in an order. -/
def extremeDouble (before : Float → Float → Bool) : List Float → Value
  | [] => .null
  | first :: rest => .float (rest.foldl (fun best x => if before x best then x else best) first)

/-- The number of the operands that a comparison puts first. -/
def extreme (operation : String) (comparison : Comparison) (operands : List Value) :
    Except RuntimeFault Value := do
  let numbers ← numbers operation operands
  .ok (match Number.words? numbers with
    -- words are compared as words: two great ones may be one and the same double
    | some words => extremeWord (fun a b => comparison.holdsWords a b) words
    | none => extremeDouble (fun a b => comparison.holdsDoubles a b) (numbers.map Number.toFloat))

/-- Whether some point of an operand is in an area. -/
def pointsInside (operation : String) (shape : Shape) (value : Value) :
    Except RuntimeFault Value := do
  let inside ← value.elements.mapM fun
    | .point x y => Except.ok (shape.contains x y)
    | _ => .error (expecting operation "point")
  .ok (.boolean (inside.any id))

/-! ### Operators -/

namespace Operator

/-- Whether an operator has a value over operands of which some are nothing. -/
def takesNull : Operator → Bool
  | multiple | ordered | .repeat _ | containerSize | isNull | and | or | anyN _ _ => true
  | _ => false

/-- A random scalar of a container. -/
def pick (operation : String) (operands : List Value) (source : RandomSource) :
    Except RuntimeFault (Value × RandomSource) := do
  let container ← first operation operands >>= container operation
  if container.isEmpty then .ok (.null, source)
  else
    let (place, source) := source.below container.items.length
    .ok (ofScalar? container.items[place]?, source)

/-- The value of an operator over a list of operands, without a random source to draw from. -/
def compute (policy : OverflowPolicy) (operator : Operator) (operands : List Value) :
    Except RuntimeFault Value :=
  let name := operator.name
  match operator with
  | multiple => collect name operands false 1
  | ordered => collect name operands true 1
  | .repeat count =>
    -- a count that is not positive gives nothing, whatever the operands are
    if count < 1 then .ok .null else collect name operands true count.toInt.toNat
  | containerSize => do elementCount name (← first name operands)
  | isNull => do .ok (.boolean (← first name operands).isNull)
  -- these two are evaluated operand by operand and never get here
  | and | or => .error (.domain name .lazyConnective)
  | anyN least greatest => countTrue name operands least greatest
  -- drawn in `apply`, which has the source at hand
  | random => .error (expecting name "a random source")
  | index n => do elementAt name (← first name operands) n
  | fieldValue field => do
    let fields ← orExpecting name "record" (← first name operands).fields?
    .ok (ofScalar? (fields.get? field))
  | member => do
    let (needle, haystack) ← needleAndContainer name operands
    .ok (.boolean (haystack.has needle))
  | delete => remove name operands
  | contains => includes name operands
  | substring caseSensitive => do
    let (a, b) ← two name operands
    let needle ← string name a
    let haystack ← string name b
    .ok (.boolean (isPartOf (caseForm caseSensitive needle) (caseForm caseSensitive haystack)))
  | not => do .ok (.boolean !(← first name operands >>= boolean name))
  | equalValues => do
    let (a, b) ← two name operands
    equalValue name a b
  | stringMatch caseSensitive => do
    let (a, b) ← two name operands
    let x ← string name a
    let y ← string name b
    .ok (.boolean (caseForm caseSensitive x == caseForm caseSensitive y))
  | patternMatch pattern => do matchesPattern name (← first name operands) pattern
  | equal test => do
    let (a, b) ← two name operands
    let x ← number name a
    let y ← number name b
    .ok (.boolean (test.accepts x.toFloat y.toFloat))
  | equalRounded mode figures => do
    let (a, b) ← two name operands
    let x ← roundFigures name (← number name a).toFloat mode figures
    let y ← roundFigures name (← number name b).toFloat mode figures
    .ok (.boolean (x == y))
  | inside shape => do pointsInside name shape (← first name operands)
  | compare comparison => do
    let (a, b) ← two name operands
    let x ← number name a
    let y ← number name b
    .ok (.boolean (comparison.holds x y))
  | durationLt => do
    let (a, b) ← two name operands
    let x ← seconds name a
    let y ← seconds name b
    .ok (.boolean (x < y))
  | durationGte => do
    let (a, b) ← two name operands
    let x ← seconds name a
    let y ← seconds name b
    .ok (.boolean (y ≤ x))
  | sum => do
    let numbers ← operands.mapM (addends name)
    Arithmetic.addition.fold name policy numbers.flatten
  | product => do
    let numbers ← operands.mapM (addends name)
    Arithmetic.multiplication.fold name policy numbers.flatten
  | subtract => do
    let (a, b) ← two name operands
    let x ← number name a
    let y ← number name b
    Arithmetic.subtraction.fold name policy [x, y]
  | divide => do
    let (a, b) ← two name operands
    let x ← number name a
    let y ← number name b
    if y.toFloat == 0.0 then .error (.divisionByZero name)
    else finiteValue name (x.toFloat / y.toFloat)
  | power => do
    let (a, b) ← two name operands
    let x ← number name a
    let y ← number name b
    finiteValue name (x.toFloat.pow y.toFloat)
  | integerDivide => do
    let (a, b) ← two name operands
    let x ← word name a
    let y ← word name b
    .ok (.integer (← divideDown name policy x y))
  | integerModulus => do
    let (a, b) ← two name operands
    let x ← word name a
    let y ← word name b
    .ok (.integer (← remainderDown name x y))
  | truncate => do wholeNumber name policy integerPart (← first name operands >>= number name)
  | round => do wholeNumber name policy nearestInteger (← first name operands >>= number name)
  | roundTo mode figures => do
    let x ← first name operands >>= number name
    .ok (.float (← roundFigures name x.toFloat mode figures))
  | integerToFloat => do .ok (.float (Word.toFloat (← first name operands >>= word name)))
  | min => extreme name .lt operands
  | max => extreme name .gt operands
  | gcd => do
    let words ← words name operands
    .ok (.integer (← wordOfNat name policy (commonDivisor words).toNat))
  | lcm => do
    let words ← words name operands
    .ok (.integer (← commonMultiple name policy 1 words))

/-- The value of an operator over a list of operands, and the random source afterwards. -/
def apply (policy : OverflowPolicy) (operator : Operator) (operands : List Value)
    (source : RandomSource) : Except RuntimeFault (Value × RandomSource) :=
  if !operator.takesNull && operands.any Value.isNull then .ok (.null, source)
  else
    match operator with
    | random => pick operator.name operands source
    | operator => do .ok (← operator.compute policy operands, source)

end Operator

end Assessment
