import Assessment.Evaluation.Basic
import Assessment.Proofs.Action

/-!
# Misuse of variables and operators

Some of what goes wrong when rules are run has nothing to do with the values at hand: a variable is
not declared or may not be assigned, a response has no mapping, an operator stands over too few
operands. Built-in operators never fail in this way. They fail because of the values of their
operands alone, of which this module has one statement for every helper of theirs.

## Main definitions

- `RuntimeFault.isMisuse`, `AssignmentProblem.isMisuse` and `Message.isMisuse`: what goes wrong
  whatever the values are.
- `NotificationLog.ReportsNoMisuse`: a log in which nothing of that kind is reported.
- `FailsOnValues`: a computation fails at most because of the values at hand.

## Main results

- `Operator.failsOnValues_apply`: operators fail at most because of the values of their operands.
-/

namespace Assessment

/-! ### Kinds of failures -/

/-- Whether an expression uses a variable or an operator in a way that is not open to it, whatever
the values are. -/
def RuntimeFault.isMisuse : RuntimeFault → Bool
  | .undeclaredVariable _ | .arity _ _ _ => true
  | .typeMismatch _ (.notResponse _) => true
  | .domain _ (.noMapping _) | .domain _ (.noAreaMapping _) => true
  | _ => false

/-- Whether a rule assigns a variable in a way that is not open to it, whatever the value is. -/
def AssignmentProblem.isMisuse : AssignmentProblem → Bool
  | .misfit _ _ _ => false
  | _ => true

/-- Whether a message says that a variable or an operator is used in a way that is not open to
it. -/
def Message.isMisuse : Message → Bool
  | .fault error => error.isMisuse
  | .assignment problem => problem.isMisuse
  | _ => false

/-- A log in which no misuse is reported. -/
def NotificationLog.ReportsNoMisuse (log : NotificationLog) : Prop :=
  ∀ notification ∈ log.entries, notification.message.isMisuse = false

namespace NotificationLog

variable {log other : NotificationLog}

theorem reportsNoMisuse_empty (level : Level) : (empty level).ReportsNoMisuse := by
  intro _ h
  cases h

/-- What is no misuse may be recorded. -/
theorem ReportsNoMisuse.record (h : log.ReportsNoMisuse) {notification : Notification}
    (hmessage : notification.message.isMisuse = false) :
    (log.record notification).ReportsNoMisuse := by
  unfold NotificationLog.record
  split
  next =>
    intro entry hentry
    obtain hentry | hentry := List.mem_append.1 hentry
    · exact h entry hentry
    · rw [List.mem_singleton.1 hentry]
      exact hmessage
  next => exact h

/-- Another log may be appended. -/
theorem ReportsNoMisuse.extend (h : log.ReportsNoMisuse) (hother : other.ReportsNoMisuse) :
    (log.extend other).ReportsNoMisuse := by
  intro entry hentry
  obtain hentry | hentry := List.mem_append.1 hentry
  · exact h entry hentry
  · exact hother entry (List.mem_filter.1 hentry).1

end NotificationLog

/-! ### Computations on values -/

variable {α β : Type}

/-- A computation fails at most because of the values at hand. -/
def FailsOnValues (result : Except RuntimeFault α) : Prop :=
  Yields result (fun _ => True) fun fault => fault.isMisuse = false

namespace FailsOnValues

theorem ok (a : α) : FailsOnValues (.ok a) := trivial

theorem error {fault : RuntimeFault} (h : fault.isMisuse = false) :
    FailsOnValues (.error fault : Except RuntimeFault α) := h

theorem of_error {result : Except RuntimeFault α} {fault : RuntimeFault}
    (h : FailsOnValues result) (hresult : result = .error fault) : fault.isMisuse = false := by
  rw [hresult] at h
  exact h

theorem ite {c : Prop} [Decidable c] {first second : Except RuntimeFault α}
    (hfirst : FailsOnValues first) (hsecond : FailsOnValues second) :
    FailsOnValues (if c then first else second) := by
  split
  next => exact hfirst
  next => exact hsecond

theorem bind {result : Except RuntimeFault α} {f : α → Except RuntimeFault β}
    (h : FailsOnValues result) (hf : ∀ a, FailsOnValues (f a)) : FailsOnValues (result >>= f) := by
  rw [FailsOnValues, yields_bind]
  exact h.mono (fun a _ => hf a) fun _ herror => herror

theorem mapM {f : α → Except RuntimeFault β} (hf : ∀ a, FailsOnValues (f a)) (members : List α) :
    FailsOnValues (members.mapM f) := by
  refine (yields_mapM f members).mono (fun _ _ => trivial) ?_
  rintro fault ⟨a, -, herror⟩
  exact (hf a).of_error herror

theorem foldlM {f : β → α → Except RuntimeFault β} (hf : ∀ b a, FailsOnValues (f b a))
    (members : List α) (start : β) : FailsOnValues (members.foldlM f start) := by
  induction members generalizing start with
  | nil => exact ok start
  | cons first rest ih =>
    rw [List.foldlM_cons]
    exact (hf start first).bind fun next => ih next

end FailsOnValues

open FailsOnValues

/-! ### Operands -/

namespace Operand

variable (operation what : String) (operands : List Value) (value : Value)

theorem failsOnValues_expecting :
    FailsOnValues (.error (expecting operation what) : Except RuntimeFault α) := rfl

theorem failsOnValues_first : FailsOnValues (first operation operands) := by
  unfold first
  split
  next => exact ok _
  next => exact failsOnValues_expecting _ _

theorem failsOnValues_two : FailsOnValues (two operation operands) := by
  unfold two
  split
  next => exact ok _
  next => exact failsOnValues_expecting _ _

theorem failsOnValues_orExpecting (reading : Option α) :
    FailsOnValues (orExpecting operation what reading) := by
  cases reading with
  | none => exact failsOnValues_expecting _ _
  | some a => exact ok a

theorem failsOnValues_scalarNumber (scalar : Scalar) :
    FailsOnValues (scalarNumber operation scalar) := by
  cases scalar <;> trivial

theorem failsOnValues_scalarWord (scalar : Scalar) :
    FailsOnValues (scalarWord operation scalar) := by
  cases scalar <;> trivial

theorem failsOnValues_number : FailsOnValues (number operation value) :=
  (failsOnValues_orExpecting _ _ _).bind fun scalar => failsOnValues_scalarNumber _ scalar

theorem failsOnValues_addends : FailsOnValues (addends operation value) := by
  unfold addends
  split
  next => exact failsOnValues_expecting _ _
  next => exact mapM (fun scalar => failsOnValues_scalarNumber _ scalar) _

end Operand

open Operand

/-- What is made of one operand fails at most because of its value. -/
theorem FailsOnValues.ofFirst {operation : String} {operands : List Value}
    {f : Value → Except RuntimeFault α} (hf : ∀ a, FailsOnValues (f a)) :
    FailsOnValues (first operation operands >>= f) :=
  (failsOnValues_first _ _).bind hf

/-- What is made of two operands fails at most because of their values. -/
theorem FailsOnValues.ofTwo {operation : String} {operands : List Value}
    {f : Value × Value → Except RuntimeFault α} (hf : ∀ a b, FailsOnValues (f (a, b))) :
    FailsOnValues (two operation operands >>= f) :=
  (failsOnValues_two _ _).bind fun pair => hf pair.1 pair.2

/-- What is made of the numbers of two operands fails at most because of their values. -/
theorem FailsOnValues.ofNumbers {operation : String} {a b : Value}
    {f : Number → Number → Except RuntimeFault α} (hf : ∀ x y, FailsOnValues (f x y)) :
    FailsOnValues (do
      let x ← number operation a
      let y ← number operation b
      f x y) :=
  (failsOnValues_number _ a).bind fun x => (failsOnValues_number _ b).bind fun y => hf x y

/-! ### Containers -/

section operations

variable (operation : String) (operands : List Value) (value : Value)

theorem failsOnValues_buildContainer (ordered : Bool) (baseType : BaseType) (items : List Scalar) :
    FailsOnValues (buildContainer operation ordered baseType items) := by
  unfold buildContainer
  split
  next => exact ok _
  next => rfl

theorem failsOnValues_gather (cardinality : Cardinality)
    (collected : Option BaseType × List Scalar) :
    FailsOnValues (gather operation cardinality collected value) :=
  ite (ok _) (ite (failsOnValues_expecting _ _) (ite (failsOnValues_expecting _ _) (ok _)))

theorem failsOnValues_collect (ordered : Bool) (times : Nat) :
    FailsOnValues (collect operation operands ordered times) := by
  refine (foldlM (fun collected operand => ?_) operands _).bind fun collected => ?_
  · exact failsOnValues_gather operation operand _ collected
  · dsimp only
    split
    next => exact ok _
    next => exact ite rfl (failsOnValues_buildContainer _ _ _ _)

theorem failsOnValues_elementCount : FailsOnValues (elementCount operation value) :=
  ite (ok _) ((failsOnValues_orExpecting _ _ _).bind fun _ => ok _)

theorem failsOnValues_elementAt (n : Int64) : FailsOnValues (elementAt operation value n) := by
  unfold elementAt
  split
  next => exact ite rfl (ok _)
  next => exact failsOnValues_expecting _ _

theorem failsOnValues_needleAndContainer :
    FailsOnValues (needleAndContainer operation operands) := by
  refine ofTwo fun a b => (failsOnValues_orExpecting _ _ _).bind fun needle => ?_
  exact (failsOnValues_orExpecting _ _ _).bind fun haystack =>
    ite (failsOnValues_expecting _ _) (ok _)

theorem failsOnValues_remove : FailsOnValues (remove operation operands) :=
  (failsOnValues_needleAndContainer _ _).bind fun _ => failsOnValues_buildContainer _ _ _ _

theorem failsOnValues_includes : FailsOnValues (includes operation operands) := by
  refine ofTwo fun a b => ?_
  split
  next => exact ite (failsOnValues_expecting _ _) (ok _)
  next => exact ite (failsOnValues_expecting _ _) (ok _)
  next => exact failsOnValues_expecting _ _

/-! ### Logic and comparison -/

theorem failsOnValues_countTrue (least greatest : Int64) :
    FailsOnValues (countTrue operation operands least greatest) :=
  ite rfl ((mapM (fun _ => failsOnValues_orExpecting _ _ _) operands).bind fun _ => ok _)

theorem failsOnValues_equalValue (other : Value) :
    FailsOnValues (equalValue operation value other) :=
  ite (failsOnValues_expecting _ _) (ite (failsOnValues_expecting _ _) (ok _))

theorem failsOnValues_matchesPattern (pattern : String) :
    FailsOnValues (matchesPattern operation value pattern) := by
  refine (failsOnValues_orExpecting _ _ _).bind fun text => ?_
  split
  next => exact ok _
  next => rfl

theorem failsOnValues_extreme (comparison : Comparison) :
    FailsOnValues (extreme operation comparison operands) :=
  (mapM (fun _ => failsOnValues_scalarNumber _ _) _).bind fun _ => ok _

theorem failsOnValues_pointsInside (shape : Shape) :
    FailsOnValues (pointsInside operation shape value) := by
  refine (mapM (fun scalar => ?_) _).bind fun _ => ok _
  split
  next => exact ok _
  next => exact failsOnValues_expecting _ _

/-! ### Arithmetic -/

theorem failsOnValues_finiteValue (x : Float) : FailsOnValues (finiteValue operation x) :=
  ite (ok _) rfl

variable (policy : OverflowPolicy)

theorem failsOnValues_onOverflow (nearest : Int64) :
    FailsOnValues (onOverflow operation policy nearest) := by
  cases policy with
  | fail => rfl
  | saturate => exact ok _

theorem failsOnValues_wordOfNat (n : Nat) : FailsOnValues (wordOfNat operation policy n) := by
  unfold wordOfNat
  split
  next => exact ok _
  next => exact failsOnValues_onOverflow _ _ _

theorem failsOnValues_fold (arithmetic : Arithmetic) (numbers : List Number) :
    FailsOnValues (arithmetic.fold operation policy numbers) := by
  have hstep : ∀ a b, FailsOnValues (arithmetic.step operation policy a b) := by
    intro a b
    unfold Arithmetic.step
    split
    next => exact ok _
    next => exact failsOnValues_onOverflow _ _ _
  unfold Arithmetic.fold
  split
  next => rfl
  next =>
    split
    next => exact (foldlM hstep _ _).bind fun _ => ok _
    next => exact failsOnValues_finiteValue _ _

theorem failsOnValues_divideDown (x y : Int64) :
    FailsOnValues (divideDown operation policy x y) := by
  refine ite rfl ?_
  split
  next => exact ok _
  next => exact failsOnValues_onOverflow _ _ _

theorem failsOnValues_remainderDown (x y : Int64) :
    FailsOnValues (remainderDown operation x y) :=
  ite rfl (ok _)

theorem failsOnValues_commonMultiple (multiple : Nat) (words : List Int64) :
    FailsOnValues (commonMultiple operation policy multiple words) := by
  induction words generalizing multiple with
  | nil => exact failsOnValues_wordOfNat _ _ _
  | cons n rest ih =>
    rw [commonMultiple]
    exact ite (ok _) (ite (ih _) (failsOnValues_onOverflow _ _ _))

theorem failsOnValues_wholeNumber (rounding : Float → Float) (number : Number) :
    FailsOnValues (wholeNumber operation policy rounding number) := by
  cases number with
  | word n => exact ok _
  | double x =>
    refine ite (ok _) ?_
    cases wordOfFloat? (rounding x) with
    | some n => exact ok _
    | none => exact (failsOnValues_onOverflow _ _ _).bind fun _ => ok _

theorem failsOnValues_roundFigures (x : Float) (mode : RoundingMode) (figures : Int64) :
    FailsOnValues (roundFigures operation x mode figures) := by
  refine ite (ok _) (ite (ok _) ?_)
  cases placesKept? x mode figures with
  | none => rfl
  | some places => exact ite rfl (ite (ok _) (ok _))

end operations

/-! ### Operators -/

namespace Operator

variable (policy : OverflowPolicy) (operator : Operator) (operands : List Value)

/-- There is one case for each way in which operators read their operands. -/
theorem failsOnValues_compute : FailsOnValues (operator.compute policy operands) := by
  cases operator with
  | multiple | ordered => exact failsOnValues_collect _ _ _ _
  | «repeat» count =>
    change FailsOnValues (if count < 1 then _ else _)
    exact ite (ok _) (failsOnValues_collect _ _ _ _)
  | containerSize => exact ofFirst fun _ => failsOnValues_elementCount _ _
  | isNull => exact ofFirst fun _ => ok _
  -- These are evaluated elsewhere, but would fail on no misuse here either.
  | and | or | random => rfl
  | anyN least greatest => exact failsOnValues_countTrue _ _ _ _
  | index n => exact ofFirst fun _ => failsOnValues_elementAt _ _ _
  | fieldValue field =>
    exact ofFirst fun _ => (failsOnValues_orExpecting _ _ _).bind fun _ => ok _
  | member => exact (failsOnValues_needleAndContainer _ _).bind fun _ => ok _
  | delete => exact failsOnValues_remove _ _
  | contains => exact failsOnValues_includes _ _
  | substring caseSensitive | stringMatch caseSensitive | durationLt | durationGte =>
    exact ofTwo fun _ _ => (failsOnValues_orExpecting _ _ _).bind fun _ =>
      (failsOnValues_orExpecting _ _ _).bind fun _ => ok _
  | not =>
    exact ((failsOnValues_first _ _).bind fun _ => failsOnValues_orExpecting _ _ _).bind
      fun _ => ok _
  | equalValues => exact ofTwo fun _ _ => failsOnValues_equalValue _ _ _
  | patternMatch pattern => exact ofFirst fun _ => failsOnValues_matchesPattern _ _ _
  | equal test => exact ofTwo fun _ _ => ofNumbers fun _ _ => ok _
  | equalRounded mode figures =>
    exact ofTwo fun _ _ => (failsOnValues_number _ _).bind fun _ =>
      (failsOnValues_roundFigures _ _ _ _).bind fun _ => (failsOnValues_number _ _).bind fun _ =>
        (failsOnValues_roundFigures _ _ _ _).bind fun _ => ok _
  | inside shape => exact ofFirst fun _ => failsOnValues_pointsInside _ _ _
  | compare comparison => exact ofTwo fun _ _ => ofNumbers fun _ _ => ok _
  | sum | product =>
    exact (mapM (fun _ => failsOnValues_addends _ _) _).bind fun _ => failsOnValues_fold _ _ _ _
  | subtract => exact ofTwo fun _ _ => ofNumbers fun _ _ => failsOnValues_fold _ _ _ _
  | divide =>
    exact ofTwo fun _ _ => ofNumbers fun _ _ => ite rfl (failsOnValues_finiteValue _ _)
  | power => exact ofTwo fun _ _ => ofNumbers fun _ _ => failsOnValues_finiteValue _ _
  | integerDivide =>
    exact ofTwo fun _ _ => (failsOnValues_orExpecting _ _ _).bind fun _ =>
      (failsOnValues_orExpecting _ _ _).bind fun _ =>
        (failsOnValues_divideDown _ _ _ _).bind fun _ => ok _
  | integerModulus =>
    exact ofTwo fun _ _ => (failsOnValues_orExpecting _ _ _).bind fun _ =>
      (failsOnValues_orExpecting _ _ _).bind fun _ =>
        (failsOnValues_remainderDown _ _ _).bind fun _ => ok _
  | truncate | round =>
    exact ((failsOnValues_first _ _).bind fun _ => failsOnValues_number _ _).bind fun _ =>
      failsOnValues_wholeNumber _ _ _ _
  | roundTo mode figures =>
    exact ((failsOnValues_first _ _).bind fun _ => failsOnValues_number _ _).bind fun _ =>
      (failsOnValues_roundFigures _ _ _ _).bind fun _ => ok _
  | integerToFloat =>
    exact ((failsOnValues_first _ _).bind fun _ => failsOnValues_orExpecting _ _ _).bind
      fun _ => ok _
  | min | max => exact failsOnValues_extreme _ _ _
  | gcd =>
    exact (mapM (fun _ => failsOnValues_scalarWord _ _) _).bind fun _ =>
      (failsOnValues_wordOfNat _ _ _).bind fun _ => ok _
  | lcm =>
    exact (mapM (fun _ => failsOnValues_scalarWord _ _) _).bind fun _ =>
      (failsOnValues_commonMultiple _ _ _ _).bind fun _ => ok _

/-- An operator fails at most because of the values of its operands. -/
theorem failsOnValues_apply (source : RandomSource) :
    FailsOnValues (operator.apply policy operands source) := by
  refine ite (ok _) ?_
  split
  next =>
    exact ((failsOnValues_first _ _).bind fun _ => failsOnValues_orExpecting _ _ _).bind
      fun container => ite (ok _) (ok _)
  next => exact (failsOnValues_compute policy _ operands).bind fun _ => ok _

end Operator

end Assessment
