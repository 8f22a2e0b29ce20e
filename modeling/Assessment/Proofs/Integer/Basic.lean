import Assessment.Evaluation.Operation

/-!
# Integer operands

Operators on integers read the words that their operands hold, one after the other, whether these
are operands by themselves or members of containers. What they come to on the integers is then
narrowed: a result that is not a word is an overflow, and is settled as the policy says.

## Main definitions

- `Word.InRange` and `Word.clamp`: the range of words, and the word nearest to an integer.
- `Operand.Hold`: operands hold a list of words.
- `Operator.settled`: what a policy makes of the exact result of an operator.

## Main results

- `Operand.Hold.words_eq` and `Operand.Hold.addends_eq`: how operands are read.
- `Operator.apply_of_hold`: operators on integers do not look at the random source.
-/

namespace Assessment

/-! ### The range of words -/

namespace Word

/-- An integer is a word. -/
def InRange (n : Int) : Prop := least ≤ n ∧ n ≤ greatest

instance : DecidablePred InRange := fun n => inferInstanceAs (Decidable (least ≤ n ∧ n ≤ greatest))

/-- The word nearest to an integer. -/
def clamp (n : Int) : Int64 := Int64.ofInt (max least (min n greatest))

variable {n : Int}

theorem inRange_toInt (w : Int64) : InRange w.toInt := range_toInt w

theorem narrow?_of_inRange (h : InRange n) : narrow? n = some (Int64.ofInt n) := if_pos h

theorem narrow?_of_not_inRange (h : ¬InRange n) : narrow? n = none := if_neg h

theorem toInt_ofInt (h : InRange n) : (Int64.ofInt n).toInt = n :=
  toInt_of_narrow? (narrow?_of_inRange h)

theorem inRange_max_min (n : Int) : InRange (max least (min n greatest)) := by
  simp only [InRange, least, greatest]
  omega

@[simp]
theorem toInt_clamp (n : Int) : (clamp n).toInt = max least (min n greatest) :=
  toInt_ofInt (inRange_max_min n)

theorem clamp_of_inRange (h : InRange n) : clamp n = Int64.ofInt n := by
  rw [clamp, Int.min_eq_left h.2, Int.max_eq_right h.1]

@[simp]
theorem clamp_toInt (w : Int64) : clamp w.toInt = w := by
  rw [clamp_of_inRange (inRange_toInt w), Int64.ofInt_toInt]

/-- Out of the range, the sign tells the end that is nearest. -/
theorem le_least_of_not_inRange (h : ¬InRange n) (hneg : n < 0) : n ≤ least := by
  simp only [InRange, least, greatest] at h ⊢
  omega

theorem greatest_le_of_not_inRange (h : ¬InRange n) (hpos : 0 ≤ n) : greatest ≤ n := by
  simp only [InRange, least, greatest] at h ⊢
  omega

/-- An integer below the range is nearest to the least word. -/
theorem clamp_of_le_least (h : n ≤ least) : clamp n = leastWord := by
  apply Int64.toInt_inj.1
  rw [toInt_clamp, Int.max_eq_left (Int.le_trans (Int.min_le_left _ _) h)]
  rfl

/-- An integer above the range is nearest to the greatest word. -/
theorem clamp_of_greatest_le (h : greatest ≤ n) : clamp n = greatestWord := by
  apply Int64.toInt_inj.1
  rw [toInt_clamp, Int.min_eq_right h]
  rfl

end Word

/-! ### Operands that hold words -/

namespace Operand

/-- Operands are scalars and containers, none of them is nothing, and the scalars that they hold are
the given words in order. -/
structure Hold (operands : List Value) (words : List Int64) : Prop where
  /-- No operand is nothing. -/
  notNull : ∀ operand ∈ operands, operand.isNull = false
  /-- No operand is a record. -/
  notRecord : ∀ operand ∈ operands, operand.fields? = none
  /-- What the operands hold are the words. -/
  scalars_eq : scalars operands = words.map .integer

variable {operands : List Value} {words : List Int64}

/-- Single integers hold themselves. -/
theorem hold_map_integer (words : List Int64) : Hold (words.map .integer) words := by
  refine ⟨?_, ?_, ?_⟩
  · simp [Value.integer, Value.isNull]
  · simp [Value.integer, Value.fields?]
  · rw [scalars, List.flatMap_map]
    exact List.map_eq_flatMap.symm

/-- A container of integers holds its members, if there are any. -/
theorem hold_container {container : Container} (hitems : container.items = words.map .integer)
    (hne : words ≠ []) : Hold [.multiple container] words ∧ Hold [.ordered container] words := by
  have hnull : container.isEmpty = false := by
    simp [Container.isEmpty, hitems, hne]
  constructor <;>
    exact ⟨by simp [Value.isNull, hnull], by simp [Value.fields?],
      by simp [scalars, Value.elements, hitems]⟩

/-- Operands together hold what each of them holds. -/
theorem Hold.append {others : List Value} {more : List Int64} (h : Hold operands words)
    (hothers : Hold others more) : Hold (operands ++ others) (words ++ more) where
  notNull := List.forall_mem_append.2 ⟨h.notNull, hothers.notNull⟩
  notRecord := List.forall_mem_append.2 ⟨h.notRecord, hothers.notRecord⟩
  scalars_eq := by
    rw [scalars, List.flatMap_append, List.map_append, ← h.scalars_eq, ← hothers.scalars_eq]
    rfl

theorem Hold.any_isNull (h : Hold operands words) : operands.any Value.isNull = false := by
  simpa using h.notNull

theorem mapM_scalarWord (operation : String) (words : List Int64) :
    (words.map Scalar.integer).mapM (scalarWord operation) = .ok words := by
  have hread : (words.map Scalar.integer).mapM (scalarWord operation) =
      .ok (words.map id) := List.mapM_map.trans List.mapM_pure
  rw [hread, List.map_id]

/-- Operators on integers read the words. -/
theorem Hold.words_eq (h : Hold operands words) (operation : String) :
    Operand.words operation operands = .ok words := by
  rw [Operand.words, h.scalars_eq, mapM_scalarWord]

theorem mapM_scalarNumber (operation : String) (words : List Int64) :
    (words.map Scalar.integer).mapM (scalarNumber operation) = .ok (words.map .word) :=
  List.mapM_map.trans List.mapM_pure

theorem addends_eq {operand : Value} (h : operand.fields? = none) (operation : String) :
    addends operation operand = operand.elements.mapM (scalarNumber operation) := by
  cases operand with
  | record fields => cases h
  | _ => rfl

/-- Operators on numbers read the words as numbers, operand by operand. -/
theorem Hold.addends_eq (h : Hold operands words) (operation : String) :
    ∃ numbers, operands.mapM (addends operation) = .ok numbers ∧
      numbers.flatten = words.map .word := by
  obtain ⟨-, hrecord, hscalars⟩ := h
  induction operands generalizing words with
  | nil =>
    obtain rfl := List.map_eq_nil_iff.1 hscalars.symm
    exact ⟨[], rfl, rfl⟩
  | cons operand rest ih =>
    rw [scalars, List.flatMap_cons] at hscalars
    -- The words are those of the first operand and those of the others.
    obtain ⟨front, back, rfl, hfront, hback⟩ := List.append_eq_map_iff.1 hscalars
    obtain ⟨numbers, hnumbers, hflatten⟩ :=
      ih (fun operand hmem => hrecord operand (List.mem_cons_of_mem _ hmem)) hback.symm
    refine ⟨front.map .word :: numbers, ?_, ?_⟩
    · rw [List.mapM_cons, Operand.addends_eq (hrecord operand List.mem_cons_self), ← hfront,
        mapM_scalarNumber, hnumbers]
      rfl
    · rw [List.flatten_cons, hflatten, List.map_append]

end Operand

/-! ### Outcomes -/

namespace Operator

/-- What a policy makes of the exact result of an operator: the result, if it is a word, and
otherwise a fault or the nearest word. -/
def settled (operator : Operator) (policy : OverflowPolicy) (n : Int) (source : RandomSource) :
    Except RuntimeFault (Value × RandomSource) :=
  if Word.InRange n then .ok (.integer (Int64.ofInt n), source)
  else match policy with
    | .fail => .error (.overflow operator.name)
    | .saturate => .ok (.integer (Word.clamp n), source)

variable {operator : Operator} {operands : List Value} {words : List Int64}

/-- An operator over operands that are all something is computed from them. Only one draws a
random number. -/
theorem apply_of_any_isNull (hnull : operands.any Value.isNull = false)
    (hrandom : operator ≠ .random) (policy : OverflowPolicy) (source : RandomSource) :
    operator.apply policy operands source =
      (operator.compute policy operands).map (·, source) := by
  have hnull : ¬(!operator.takesNull && operands.any Value.isNull) = true := by simp [hnull]
  rw [apply, if_neg hnull]
  · cases operator.compute policy operands <;> rfl
  · exact hrandom

/-- An operator over operands that hold words is computed from them, without a random number. -/
theorem apply_of_hold (h : Operand.Hold operands words) (hrandom : operator ≠ .random)
    (policy : OverflowPolicy) (source : RandomSource) :
    operator.apply policy operands source =
      (operator.compute policy operands).map (·, source) :=
  apply_of_any_isNull h.any_isNull hrandom policy source

theorem settled_of_inRange {n : Int} (h : Word.InRange n) (policy : OverflowPolicy)
    (source : RandomSource) :
    operator.settled policy n source = .ok (.integer (Int64.ofInt n), source) := if_pos h

theorem settled_of_not_inRange {n : Int} (h : ¬Word.InRange n) (policy : OverflowPolicy)
    (source : RandomSource) :
    operator.settled policy n source =
      (onOverflow operator.name policy (Word.clamp n)).map (Value.integer ·, source) := by
  unfold settled
  rw [if_neg h]
  cases policy <;> rfl

end Operator

end Assessment
