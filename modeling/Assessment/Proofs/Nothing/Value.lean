import Assessment.Execution.Stage
import Assessment.Proofs.Coupling
import Assessment.Proofs.Related

/-!
# Ways of holding nothing

A container without scalars and a record without fields hold nothing, as the value that stands for
nothing does. A session may come to hold any of them. What is computed of values makes no difference
between them: it asks whether a value is nothing before it looks at what the value is, or it looks
at the scalars, of which there are none.

Values are akin if they are the same or both hold nothing. Most computations have one result for
values that are akin. Those that hand a value on have results that are akin.

## Main definitions

- `Value.Akin`: values that are the same, or that both hold nothing.
- `Value.Overlooks`: a computation that makes no difference between ways of holding nothing.

## Main results

- `Operator.apply_congr`: operators have the same value over operands that are akin.
- `couple_prepareFor`: values that are akin are prepared alike for an assignment.
-/

namespace Assessment

namespace Value

/-- Two values are the same, or both hold nothing. -/
def Akin (a b : Value) : Prop := a = b ∨ (a.isNull = true ∧ b.isNull = true)

/-- A computation has one result for all ways of holding nothing. -/
def Overlooks {α : Type} (f : Value → α) : Prop := ∀ value, value.isNull = true → f value = f .null

example : (multiple ⟨.integer, [], nofun⟩).Akin (record .empty) := .inr ⟨rfl, rfl⟩

variable {α : Type} {a b c d : Value}

@[refl]
theorem Akin.refl (a : Value) : a.Akin a := .inl rfl

theorem Akin.isNull_eq (h : a.Akin b) : b.isNull = a.isNull := by
  obtain rfl | ⟨ha, hb⟩ := h
  · rfl
  · rw [ha, hb]

/-- What is something is akin to nothing but itself. -/
theorem Akin.eq_of_isNull (h : a.Akin b) (ha : a.isNull = false) : b = a := by
  obtain rfl | ⟨hnull, -⟩ := h
  · rfl
  · rw [ha] at hnull
    cases hnull

/-- A computation that overlooks how a value holds nothing has one result for values that are
akin. -/
theorem Akin.congr {f : Value → α} (hf : Overlooks f) (h : a.Akin b) : f b = f a := by
  obtain rfl | ⟨ha, hb⟩ := h
  · rfl
  · rw [hf a ha, hf b hb]

theorem Overlooks.comp {β : Type} {f : Value → α} (hf : Overlooks f) (g : α → β) :
    Overlooks fun value => g (f value) :=
  fun value h => congrArg g (hf value h)

/-! ### What is read off a value -/

theorem overlooks_elements : Overlooks elements := fun value h => by
  cases value with
  | null | record _ => rfl
  | single _ => cases h
  | multiple _ | ordered _ => exact List.isEmpty_iff.1 h

theorem overlooks_baseType? : Overlooks baseType? := fun value h => by
  cases value with
  | null | record _ => rfl
  | single _ => cases h
  | multiple _ | ordered _ => exact if_pos h

theorem overlooks_text : Overlooks text := fun _ h => (if_pos h).trans (if_pos rfl).symm

theorem overlooks_triState? : Overlooks triState? := fun _ h =>
  (if_pos h).trans (if_pos rfl).symm

theorem overlooks_conforms (signature : Signature) : Overlooks (conforms · signature) :=
  fun value h => by
    have hnull : null.isNull = true := rfl
    simp only [conforms, h, hnull, Bool.true_or]

theorem overlooks_word? : Overlooks word? := fun value h => by
  cases value <;> first | rfl | cases h

theorem overlooks_float? : Overlooks float? := fun value h => by
  cases value <;> first | rfl | cases h

/-- All ways of holding nothing are equal to the same values. -/
theorem Akin.beq_congr (h : a.Akin b) (h' : c.Akin d) : (b == d) = (a == c) := by
  have hleft (value : Value) : Overlooks (· == value) := fun given hgiven => by
    have hnull : null.isNull = true := rfl
    change same given value = same null value
    unfold same
    simp only [hgiven, hnull, Bool.true_or, if_true]
  have hright (value : Value) : Overlooks (value == ·) := fun given hgiven => by
    have hnull : null.isNull = true := rfl
    change same value given = same value null
    unfold same
    simp only [hgiven, hnull, Bool.or_true, if_true]
  exact (h.congr (hleft d)).trans (h'.congr (hright a))

end Value

open Value

/-! ### Mappings and tables -/

theorem Mapping.overlooks_score (mapping : Mapping) : Overlooks mapping.score := fun value h => by
  rw [score, score, overlooks_elements value h]

theorem AreaMapping.overlooks_score (mapping : AreaMapping) : Overlooks mapping.score :=
  fun value h => by rw [score, score, overlooks_elements value h]

/-- A table has for nothing what it has for values without a line. -/
theorem LookupTable.overlooks_find? (table : LookupTable) : Overlooks table.find? :=
  fun value h => by
    cases table with
    | exact lines default => rw [find?, find?, overlooks_word? value h]
    | interpolation lines default => rw [find?, find?, overlooks_float? value h]

/-! ### Operators -/

namespace Operator

variable {operands operands' : List Value}

/-- Operands that are akin to something are nothing at the same places. -/
theorem any_isNull_congr (h : List.Forall₂ Akin operands operands') :
    operands'.any Value.isNull = operands.any Value.isNull := by
  induction h with
  | nil => rfl
  | cons hfirst _ ih => rw [List.any_cons, List.any_cons, hfirst.isNull_eq, ih]

/-- Operands of which none is nothing are akin to themselves only. -/
theorem eq_of_any_isNull (h : List.Forall₂ Akin operands operands')
    (hnull : operands.any Value.isNull = false) : operands' = operands := by
  induction h with
  | nil => rfl
  | cons hfirst _ ih =>
    rw [List.any_cons, Bool.or_eq_false_iff] at hnull
    rw [hfirst.eq_of_isNull hnull.1, ih hnull.2]

/-- Nothing adds nothing to a container. -/
theorem overlooks_gather (operation : String) (cardinality : Cardinality)
    (collected : Option BaseType × List Scalar) :
    Overlooks (gather operation cardinality collected) := fun _ h =>
  (if_pos h).trans (if_pos rfl).symm

theorem foldlM_gather_congr (h : List.Forall₂ Akin operands operands') (operation : String)
    (cardinality : Cardinality) (collected : Option BaseType × List Scalar) :
    operands'.foldlM (gather operation cardinality) collected =
      operands.foldlM (gather operation cardinality) collected := by
  induction h generalizing collected with
  | nil => rfl
  | cons hfirst _ ih =>
    simp only [List.foldlM_cons, hfirst.congr (overlooks_gather operation cardinality collected),
      ih]

theorem collect_congr (h : List.Forall₂ Akin operands operands') (operation : String)
    (ordered : Bool) (times : Nat) :
    collect operation operands' ordered times = collect operation operands ordered times := by
  rw [collect, collect]
  simp only [foldlM_gather_congr h]

/-- What is computed of the first operand is the same if it overlooks how that holds nothing. -/
theorem first_bind_congr {α : Type} {f : Value → Except RuntimeFault α} (hf : Overlooks f)
    (h : List.Forall₂ Akin operands operands') (operation : String) :
    (Operand.first operation operands' >>= f) = (Operand.first operation operands >>= f) := by
  cases h with
  | nil => rfl
  | cons hfirst _ => exact hfirst.congr hf

/-- What is computed where operands may be nothing is the same for operands that are akin. -/
theorem compute_congr {operator : Operator} (htakes : operator.takesNull = true)
    (policy : OverflowPolicy) (h : List.Forall₂ Akin operands operands') :
    operator.compute policy operands' = operator.compute policy operands := by
  cases operator with
  | multiple | ordered => exact collect_congr h _ _ _
  | «repeat» count =>
    by_cases hcount : count < 1
    · exact (if_pos hcount).trans (if_pos hcount).symm
    · exact (if_neg hcount).trans ((collect_congr h _ _ _).trans (if_neg hcount).symm)
  | containerSize =>
    exact first_bind_congr (fun _ hnull => (if_pos hnull).trans (if_pos rfl).symm) h _
  | isNull =>
    refine first_bind_congr (fun value hnull => ?_) h _
    rw [hnull]
    rfl
  | anyN least greatest =>
    have hoperand : Overlooks fun value =>
        Operand.orExpecting "anyN" "single boolean" value.triState? :=
      overlooks_triState?.comp _
    change countTrue "anyN" _ _ _ = countTrue "anyN" _ _ _
    simp only [countTrue, mapM_eq_of_forall₂ h fun _ _ hakin => hakin.congr hoperand]
  | and | or => rfl
  | _ => cases htakes

/-- An operator has the same value over operands that are akin. Most have none over nothing; those
that have one do not tell one way of holding nothing from another. -/
theorem apply_congr (operator : Operator) (policy : OverflowPolicy)
    (h : List.Forall₂ Akin operands operands') (source : RandomSource) :
    operator.apply policy operands' source = operator.apply policy operands source := by
  cases hnull : operands.any Value.isNull with
  | false => rw [eq_of_any_isNull h hnull]
  | true =>
    cases htakes : operator.takesNull with
    | false =>
      have happly {given : List Value} (hgiven : given.any Value.isNull = true) :
          operator.apply policy given source = .ok (.null, source) := if_pos (by simp [*])
      rw [happly hnull, happly ((any_isNull_congr h).trans hnull)]
    | true =>
      have happly (given : List Value) : operator.apply policy given source =
          (do .ok (← operator.compute policy given, source)) := by
        rw [apply, if_neg (by simp [htakes])]
        rintro rfl
        cases htakes
      rw [happly, happly, compute_congr htakes policy h]

end Operator

/-! ### Assignments -/

/-- Only scalars are widened, so that nothing stays nothing. -/
theorem Value.Akin.coerce {a b : Value} (h : a.Akin b) (signature : Signature) :
    (coerce a signature).Akin (coerce b signature) := by
  obtain rfl | ⟨ha, hb⟩ := h
  · rfl
  · have hsame {value : Value} (hvalue : value.isNull = true) :
        Assessment.coerce value signature = value := by
      rw [Assessment.coerce, overlooks_baseType? value hvalue]
      exact if_pos (.inr nofun)
    rw [hsame ha, hsame hb]
    exact .inr ⟨ha, hb⟩

/-- A table is asked for nothing alike, whichever way it is held. -/
theorem couple_lookedUp {a b : Value} (h : a.Akin b) (target : Target) (declaration : Declaration)
    (name : Identifier) :
    Couple Value.Akin Eq (lookedUp target declaration name a)
      (lookedUp target declaration name b) := by
  unfold lookedUp
  refine couple_ite (fun _ => ?_) fun _ => h
  split
  next table _ =>
    rw [h.congr table.overlooks_find?]
    exact Value.Akin.refl _
  next => rfl

/-- Values that are akin are prepared alike for an assignment, and refused with the same words. -/
theorem couple_prepareFor {a b : Value} (h : a.Akin b) (target : Target) (name : Identifier)
    (declaration : Declaration) :
    Couple Value.Akin (fun problem problem' => problem.message = problem'.message)
      (prepareFor target name declaration a) (prepareFor target name declaration b) := by
  unfold prepareFor
  refine couple_ite (fun _ => rfl) fun _ => couple_ite (fun _ => rfl) fun _ => ?_
  have hlooked := (couple_lookedUp h target declaration name).mono (fun _ _ hab => hab)
    fun _ _ herror => congrArg AssignmentProblem.message herror
  refine hlooked.bind fun value value' hvalue => ?_
  have hcoerced := hvalue.coerce declaration.signature
  dsimp only
  rw [hcoerced.congr (overlooks_conforms declaration.signature)]
  refine couple_ite (fun _ => hcoerced) fun _ => ?_
  simp only [Couple, AssignmentProblem.message, hcoerced.congr overlooks_text]

end Assessment
