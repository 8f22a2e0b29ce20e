import Assessment.Evaluation.Operation
import Assessment.Proofs.Finite.Value

/-!
# Operators on finite values

An operator over finite operands has a finite value. Most values are truth values and integers, or
scalars that are taken from an operand. Where doubles are computed the result is tested: sums,
products, quotients and powers that are not finite are faults.

Rounding is not tested. To decimal places a finite number is rounded to a finite one, as it is
divided by the power of ten that it was multiplied with. To significant figures it may be rounded up
beyond the greatest double.

## Main definitions

- `Operator.RoundsFinitely`: an operator that does not round beyond the greatest double.

## Main results

- `Operator.yields_apply`: such an operator over finite operands has a finite value.
-/

namespace Assessment

open Operand

/-! ### Operands -/

section operands

variable {operands : List Value} (h : ∀ value ∈ operands, value.IsFinite) (operation : String)

include h

theorem yields_first : Yields (first operation operands) Value.IsFinite fun _ => True := by
  cases operands with
  | nil => trivial
  | cons value _ => exact h value List.mem_cons_self

theorem yields_two :
    Yields (two operation operands) (fun pair => pair.1.IsFinite ∧ pair.2.IsFinite)
      fun _ => True := by
  match operands, h with
  | [], _ | [_], _ => trivial
  | a :: b :: _, h =>
    exact ⟨h a List.mem_cons_self, h b (List.mem_cons_of_mem _ List.mem_cons_self)⟩

omit h in
theorem yields_scalarNumber {scalar : Scalar} (h : scalar.IsFinite) :
    Yields (scalarNumber operation scalar) (·.toFloat.isFinite = true) fun _ => True := by
  cases scalar with
  | integer n => exact Word.isFinite_toFloat n
  | float x => exact h
  | _ => trivial

omit h in
/-- The number of a finite operand is finite. -/
theorem yields_number {value : Value} (h : value.IsFinite) :
    Yields (number operation value) (·.toFloat.isFinite = true) fun _ => True := by
  cases value with
  | single scalar => exact yields_scalarNumber operation (Value.isFinite_single.1 h)
  | _ => trivial

/-- The numbers of finite operands are finite. -/
theorem yields_numbers :
    Yields (numbers operation operands) (fun numbers => ∀ n ∈ numbers, n.toFloat.isFinite = true)
      fun _ => True := by
  refine yields_mapM_all fun scalar hscalar => yields_scalarNumber operation ?_
  obtain ⟨value, hvalue, helement⟩ := List.mem_flatMap.1 hscalar
  exact (h value hvalue).elements scalar helement

end operands

/-! ### Containers -/

section containers

variable {items : List Scalar} {operands : List Value} (operation : String)

/-- A scalar that is taken from a finite value, if there is one there, is a finite value. -/
theorem isFinite_ofScalar? {found : Option Scalar} (h : ∀ scalar ∈ found, scalar.IsFinite) :
    (ofScalar? found).IsFinite := by
  cases found with
  | none => exact Value.isFinite_null
  | some scalar => exact Value.isFinite_single.2 (h scalar rfl)

theorem isFinite_ofScalar?_getElem? (h : ∀ scalar ∈ items, scalar.IsFinite) (place : Nat) :
    (ofScalar? items[place]?).IsFinite :=
  isFinite_ofScalar? fun scalar hscalar => h scalar (List.mem_of_getElem? hscalar)

theorem yields_buildContainer (h : ∀ scalar ∈ items, scalar.IsFinite) (ordered : Bool)
    (baseType : BaseType) :
    Yields (buildContainer operation ordered baseType items) Value.IsFinite fun _ => True := by
  have hbuilt : Yields (if ordered then Value.orderedOf baseType items
      else Value.multipleOf baseType items) Value.IsFinite fun _ => True := by
    cases ordered
    · exact Value.yields_multipleOf h
    · exact Value.yields_orderedOf h
  unfold buildContainer
  split
  next hvalue =>
    rw [hvalue] at hbuilt
    exact hbuilt
  next => trivial

/-- What is gathered from finite operands is finite. -/
theorem yields_foldlM_gather (cardinality : Cardinality) (h : ∀ value ∈ operands, value.IsFinite)
    {collected : Option BaseType × List Scalar}
    (hcollected : ∀ scalar ∈ collected.2, scalar.IsFinite) :
    Yields (operands.foldlM (gather operation cardinality) collected)
      (fun collected => ∀ scalar ∈ collected.2, scalar.IsFinite) fun _ => True := by
  induction operands generalizing collected with
  | nil => exact hcollected
  | cons operand rest ih =>
    obtain ⟨hoperand, hrest⟩ := List.forall_mem_cons.1 h
    have hgather : Yields (gather operation cardinality collected operand)
        (fun collected => ∀ scalar ∈ collected.2, scalar.IsFinite) fun _ => True := by
      unfold gather
      split
      next => exact hcollected
      next =>
        split
        next => trivial
        next =>
          split
          next => trivial
          next => exact List.forall_mem_append.2 ⟨hcollected, hoperand.elements⟩
    rw [List.foldlM_cons]
    exact hgather.bind fun _ hmore => ih hrest hmore

/-- The container of the scalars of finite operands is finite. -/
theorem yields_collect (h : ∀ value ∈ operands, value.IsFinite) (ordered : Bool) (times : Nat) :
    Yields (collect operation operands ordered times) Value.IsFinite fun _ => True := by
  refine (yields_foldlM_gather operation _ h (List.forall_mem_nil _)).bind ?_
  rintro ⟨baseType?, items⟩ hitems
  cases baseType? with
  | none => exact Value.isFinite_null
  | some baseType =>
    dsimp only
    split
    next => trivial
    next =>
      apply yields_buildContainer
      intro scalar hscalar
      obtain ⟨copy, hcopy, hscalar⟩ := List.mem_flatten.1 hscalar
      rw [List.eq_of_mem_replicate hcopy] at hscalar
      exact hitems scalar hscalar

theorem yields_elementAt {value : Value} (h : value.IsFinite) (n : Int64) :
    Yields (elementAt operation value n) Value.IsFinite fun _ => True := by
  unfold elementAt
  split
  next container =>
    split
    next => trivial
    next => exact isFinite_ofScalar?_getElem? h _
  next => trivial

theorem yields_container {value : Value} (h : value.IsFinite) :
    Yields (container operation value) (fun found => ∀ scalar ∈ found.items, scalar.IsFinite)
      fun _ => True := by
  unfold container orExpecting
  split
  next hfound => exact h.container? hfound
  next => trivial

/-- The container that an operator looks into is finite if the operands are. -/
theorem yields_needleAndContainer (h : ∀ value ∈ operands, value.IsFinite) :
    Yields (needleAndContainer operation operands)
      (fun pair => ∀ scalar ∈ pair.2.items, scalar.IsFinite) fun _ => True := by
  refine (yields_two h operation).bind ?_
  rintro ⟨a, b⟩ ⟨-, hb⟩
  refine Yields.bind yields_true fun needle _ => ?_
  refine (yields_container operation hb).bind fun haystack hhaystack => ?_
  split
  next => trivial
  next => exact hhaystack

theorem yields_remove (h : ∀ value ∈ operands, value.IsFinite) :
    Yields (remove operation operands) Value.IsFinite fun _ => True := by
  refine (yields_needleAndContainer operation h).bind ?_
  rintro ⟨needle, haystack⟩ hhaystack
  apply yields_buildContainer
  exact fun scalar hscalar => hhaystack scalar (List.mem_of_mem_filter hscalar)

end containers

/-! ### Truth values -/

theorem isFinite_ofTriState (state : TriState) : (ofTriState state).IsFinite := by
  cases state with
  | unknown => exact Value.isFinite_null
  | yes => exact Value.isFinite_boolean true
  | no => exact Value.isFinite_boolean false

section truth

variable (operation : String)

theorem yields_elementCount (value : Value) :
    Yields (elementCount operation value) Value.IsFinite fun _ => True := by
  unfold elementCount
  split
  next => exact Value.isFinite_integer 0
  next => exact Yields.bind yields_true fun _ _ => Value.isFinite_integer _

theorem yields_includes (operands : List Value) :
    Yields (includes operation operands) Value.IsFinite fun _ => True := by
  refine Yields.bind yields_true fun pair _ => ?_
  split
  next =>
    split
    next => trivial
    next => exact Value.isFinite_boolean _
  next =>
    split
    next => trivial
    next => exact Value.isFinite_boolean _
  next => trivial

theorem yields_countTrue (operands : List Value) (least greatest : Int64) :
    Yields (countTrue operation operands least greatest) Value.IsFinite fun _ => True := by
  unfold countTrue
  split
  next => trivial
  next => exact Yields.bind yields_true fun _ _ => isFinite_ofTriState _

theorem yields_equalValue (a b : Value) :
    Yields (equalValue operation a b) Value.IsFinite fun _ => True := by
  unfold equalValue
  split
  next => trivial
  next =>
    split
    next => trivial
    next => exact Value.isFinite_boolean _

theorem yields_matchesPattern (value : Value) (pattern : String) :
    Yields (matchesPattern operation value pattern) Value.IsFinite fun _ => True := by
  refine Yields.bind yields_true fun text _ => ?_
  split
  next => exact Value.isFinite_boolean _
  next => trivial

end truth

/-! ### Numbers -/

section numbers

variable (operation : String)

/-- What is not finite is refused. -/
theorem yields_finiteValue (x : Float) :
    Yields (finiteValue operation x) Value.IsFinite fun _ => True := by
  unfold finiteValue
  split
  next h => exact Value.isFinite_float.2 h
  next => trivial

theorem Arithmetic.yields_fold (arithmetic : Arithmetic) (policy : OverflowPolicy)
    (numbers : List Number) :
    Yields (arithmetic.fold operation policy numbers) Value.IsFinite fun _ => True := by
  unfold fold
  split
  next => trivial
  next =>
    split
    next => exact Yields.bind yields_true fun n _ => Value.isFinite_integer n
    next => exact yields_finiteValue operation _

theorem yields_wholeNumber (policy : OverflowPolicy) (rounding : Float → Float) (n : Number) :
    Yields (wholeNumber operation policy rounding n) Value.IsFinite fun _ => True := by
  cases n with
  | word n => exact Value.isFinite_integer n
  | double x =>
    rw [wholeNumber]
    split
    next => exact Value.isFinite_null
    next =>
      dsimp only
      split
      next n _ => exact Value.isFinite_integer n
      next => exact Yields.bind yields_true fun n _ => Value.isFinite_integer n

/-- The extreme of some numbers is one of them. -/
theorem yields_extreme {operands : List Value} (h : ∀ value ∈ operands, value.IsFinite)
    (comparison : Comparison) :
    Yields (extreme operation comparison operands) Value.IsFinite fun _ => True := by
  refine (yields_numbers h operation).bind fun numbers hnumbers => ?_
  rw [yields_ok]
  split
  next words _ =>
    cases words with
    | nil => exact Value.isFinite_null
    | cons first rest => exact Value.isFinite_integer _
  next =>
    cases numbers with
    | nil => exact Value.isFinite_null
    | cons first rest =>
      -- The best number so far stays finite, whichever of the two is taken.
      obtain ⟨hfirst, hrest⟩ := List.forall_mem_cons.1 hnumbers
      refine Value.isFinite_float.2 ?_
      refine List.foldlRecOn (motive := fun best : Float => best.isFinite = true) _ _ hfirst ?_
      intro best hbest x hx
      obtain ⟨n, hn, rfl⟩ := List.mem_map.1 hx
      split
      · exact hrest n hn
      · exact hbest

end numbers

/-! ### Operators -/

namespace Operator

/-- An operator that does not round a finite number to significant figures in such a way that it
leaves the range of doubles. -/
def RoundsFinitely : Operator → Prop
  | .roundTo .significantFigures figures => ∀ operation x y, x.isFinite = true →
    roundFigures operation x .significantFigures figures = .ok y → y.isFinite = true
  | _ => True

variable {operator : Operator} {operands : List Value} (hrounds : operator.RoundsFinitely)
  (h : ∀ value ∈ operands, value.IsFinite)

include hrounds h

/-- An operator that computes from finite operands computes a finite value. -/
theorem yields_compute (policy : OverflowPolicy) :
    Yields (operator.compute policy operands) Value.IsFinite fun _ => True := by
  cases operator with
  | multiple => exact yields_collect _ h false 1
  | ordered => exact yields_collect _ h true 1
  | «repeat» count =>
    rw [compute]
    split
    next => exact Value.isFinite_null
    next => exact yields_collect _ h true _
  | index n => exact (yields_first h _).bind fun value hvalue => yields_elementAt _ hvalue n
  | fieldValue field =>
    refine (yields_first h _).bind fun value hvalue => ?_
    cases value with
    | record fields =>
      refine isFinite_ofScalar? fun scalar hscalar => hvalue scalar ?_
      exact List.mem_map_of_mem (SortedMap.mem_toList_of_get? hscalar)
    | _ => trivial
  | delete => exact yields_remove _ h
  | sum | product => exact Yields.bind yields_true fun _ _ => Arithmetic.yields_fold _ _ _ _
  | subtract =>
    refine Yields.bind yields_true fun _ _ => Yields.bind yields_true fun x _ =>
      Yields.bind yields_true fun y _ => ?_
    exact Arithmetic.yields_fold _ _ _ _
  | divide =>
    refine Yields.bind yields_true fun _ _ => Yields.bind yields_true fun x _ =>
      Yields.bind yields_true fun y _ => ?_
    split
    next => trivial
    next => exact yields_finiteValue _ _
  | power =>
    refine Yields.bind yields_true fun _ _ => Yields.bind yields_true fun x _ =>
      Yields.bind yields_true fun y _ => ?_
    exact yields_finiteValue _ _
  | truncate | round => exact Yields.bind yields_true fun n _ => yields_wholeNumber _ _ _ n
  | roundTo mode figures =>
    refine Yields.bind ((yields_first h _).bind fun _ => yields_number _) fun x hx => ?_
    refine Yields.bind (yields_iff.2 ⟨fun y hy => ?_, fun _ _ => trivial⟩) fun y hy =>
      Value.isFinite_float.2 hy
    cases mode with
    | significantFigures => exact hrounds _ _ y hx hy
    | decimalPlaces => exact isFinite_of_roundFigures hx hy
  | integerToFloat =>
    refine Yields.bind yields_true fun n _ => ?_
    exact Value.isFinite_float.2 (Word.isFinite_toFloat n)
  | min => exact yields_extreme _ h .lt
  | max => exact yields_extreme _ h .gt
  | containerSize => exact Yields.bind yields_true fun _ _ => yields_elementCount _ _
  | anyN least greatest => exact yields_countTrue _ operands least greatest
  | contains => exact yields_includes _ operands
  | equalValues => exact Yields.bind yields_true fun _ _ => yields_equalValue _ _ _
  | patternMatch pattern =>
    exact Yields.bind yields_true fun _ _ => yields_matchesPattern _ _ pattern
  | and | or | random => trivial
  | isNull | member | not => exact Yields.bind yields_true fun _ _ => Value.isFinite_boolean _
  | inside shape =>
    refine Yields.bind yields_true fun _ _ => Yields.bind yields_true fun _ _ => ?_
    exact Value.isFinite_boolean _
  | substring _ | stringMatch _ | equal _ | compare _ | durationLt | durationGte =>
    refine Yields.bind yields_true fun _ _ => Yields.bind yields_true fun _ _ =>
      Yields.bind yields_true fun _ _ => ?_
    exact Value.isFinite_boolean _
  | equalRounded mode figures =>
    refine Yields.bind yields_true fun _ _ => Yields.bind yields_true fun _ _ =>
      Yields.bind yields_true fun _ _ => Yields.bind yields_true fun _ _ =>
        Yields.bind yields_true fun _ _ => ?_
    exact Value.isFinite_boolean _
  | integerDivide | integerModulus =>
    refine Yields.bind yields_true fun _ _ => Yields.bind yields_true fun _ _ =>
      Yields.bind yields_true fun _ _ => Yields.bind yields_true fun _ _ => ?_
    exact Value.isFinite_integer _
  | gcd | lcm =>
    refine Yields.bind yields_true fun _ _ => Yields.bind yields_true fun _ _ => ?_
    exact Value.isFinite_integer _

/-- An operator that is applied to finite operands has a finite value, drawn at random or not. -/
theorem yields_apply (policy : OverflowPolicy) (source : RandomSource) :
    Yields (operator.apply policy operands source) (fun answer => answer.1.IsFinite)
      fun _ => True := by
  unfold apply
  split
  next => exact Value.isFinite_null
  next =>
    split
    next =>
      have hcontainer : Yields (first random.name operands >>= container random.name)
          (fun haystack => ∀ scalar ∈ haystack.items, scalar.IsFinite) fun _ => True :=
        (yields_first h _).bind fun _ hvalue => yields_container _ hvalue
      refine hcontainer.bind fun haystack hhaystack => ?_
      split
      next => exact Value.isFinite_null
      next => exact isFinite_ofScalar?_getElem? hhaystack _
    next => exact (yields_compute hrounds h policy).bind fun _ hvalue => hvalue

end Operator

end Assessment
