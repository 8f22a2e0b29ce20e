import Assessment.Proofs.Action
import Assessment.Proofs.Integer.Basic

/-!
# Records as operands

Few operators are meant for records. Most of the others read an operand as a scalar or as a
container, and refuse a record because it is neither. Some read all scalars that their operands
hold, and ask for no shape: to them a record is an operand without scalars, so that they pass it
over.

## Main definitions

- `Operator.takesRecords`: an operator that is meant for records, or that is not computed.
- `Operator.readsScalars`: an operator that reads the scalars of its operands and nothing else.
- `Operator.RejectsRecords`: an operator has no value over operands of which one is a record.
- `Operator.PassesOverRecords`: an operator has the value that it has over the other operands.

## Main results

- `Operator.refused_apply_of_hasRecord`: an operator that does not just read scalars rejects
  records.
- `Operator.passesOverRecords_of_readsScalars`: one that does passes them over.
- `Operator.rejectsRecords_iff`: these are the two cases that there are.
-/

namespace Assessment

open Operand

/-! ### Computations without a result -/

section refused

variable {α β : Type} {result : Except RuntimeFault α}

/-- A computation has no result. -/
def Refused (result : Except RuntimeFault α) : Prop := Yields result (fun _ => False) fun _ => True

theorem Refused.exists_error (h : Refused result) : ∃ fault, result = .error fault := by
  cases result with
  | ok a => exact h.elim
  | error fault => exact ⟨fault, rfl⟩

theorem Refused.bind (h : Refused result) (f : α → Except RuntimeFault β) :
    Refused (result >>= f) :=
  Yields.bind h fun _ hnone => hnone.elim

theorem Refused.map (h : Refused result) (f : α → β) : Refused (result.map f) := by
  obtain ⟨fault, rfl⟩ := h.exists_error
  trivial

/-- A computation has no result if it goes on with one that has none. -/
theorem refused_bind {f : α → Except RuntimeFault β} (hf : ∀ a, Refused (f a)) :
    Refused (result >>= f) :=
  Yields.bind yields_true fun a _ => hf a

variable {members : List α} {a : α}

theorem refused_mapM {f : α → Except RuntimeFault β} (ha : a ∈ members) (hf : Refused (f a)) :
    Refused (members.mapM f) := by
  induction members with
  | nil => cases ha
  | cons first rest ih =>
    rw [List.mapM_cons]
    obtain rfl | ha := List.mem_cons.1 ha
    · exact hf.bind _
    -- The first member may have no result either; if it has one, the others are traversed.
    · exact refused_bind fun _ => (ih ha).bind _

theorem refused_foldlM {f : β → α → Except RuntimeFault β} (ha : a ∈ members)
    (hf : ∀ b, Refused (f b a)) (start : β) : Refused (members.foldlM f start) := by
  induction members generalizing start with
  | nil => cases ha
  | cons first rest ih =>
    rw [List.foldlM_cons]
    obtain rfl | ha := List.mem_cons.1 ha
    · exact (hf start).bind _
    · exact refused_bind fun next => ih ha next

end refused

/-! ### Reading a record -/

/-- Whether a value is a record. -/
def Value.isRecord (value : Value) : Bool := value.fields?.isSome

theorem Value.exists_of_isRecord {value : Value} (h : value.isRecord = true) :
    ∃ fields, value = .record fields := by
  cases value with
  | record fields => exact ⟨fields, rfl⟩
  | _ => cases h

/-- A record holds no scalars that an operator could read. -/
theorem Value.elements_of_isRecord {value : Value} (h : value.isRecord = true) :
    value.elements = [] := by
  obtain ⟨fields, rfl⟩ := Value.exists_of_isRecord h
  rfl

/-- A way of reading operands refuses records. -/
def RefusesRecords {α : Type} (read : Value → Except RuntimeFault α) : Prop :=
  ∀ value, value.isRecord = true → Refused (read value)

section reading

variable {α β : Type} (operation : String)

/-- What is looked for in an operand is not found in a record. -/
theorem refusesRecords_orExpecting {read : Value → Option α}
    (h : ∀ fields, read (.record fields) = none) (what : String) :
    RefusesRecords fun value => orExpecting operation what (read value) := by
  intro value hrecord
  obtain ⟨fields, rfl⟩ := Value.exists_of_isRecord hrecord
  dsimp only
  rw [h]
  trivial

theorem refusesRecords_scalar (what : String) :
    RefusesRecords fun value => orExpecting operation what value.scalar? :=
  refusesRecords_orExpecting operation (fun _ => rfl) what

theorem refusesRecords_boolean : RefusesRecords (boolean operation) :=
  refusesRecords_orExpecting operation (fun _ => rfl) _

theorem refusesRecords_string : RefusesRecords (string operation) :=
  refusesRecords_orExpecting operation (fun _ => rfl) _

theorem refusesRecords_word : RefusesRecords (word operation) :=
  refusesRecords_orExpecting operation (fun _ => rfl) _

theorem refusesRecords_seconds : RefusesRecords (seconds operation) :=
  refusesRecords_orExpecting operation (fun _ => rfl) _

theorem refusesRecords_container : RefusesRecords (container operation) :=
  refusesRecords_orExpecting operation (fun _ => rfl) _

theorem refusesRecords_number : RefusesRecords (number operation) := fun value hrecord =>
  (refusesRecords_scalar operation _ value hrecord).bind _

theorem refusesRecords_addends : RefusesRecords (addends operation) := by
  intro value hrecord
  obtain ⟨fields, rfl⟩ := Value.exists_of_isRecord hrecord
  trivial

theorem refusesRecords_elementAt (n : Int64) :
    RefusesRecords fun value => elementAt operation value n := by
  intro value hrecord
  obtain ⟨fields, rfl⟩ := Value.exists_of_isRecord hrecord
  trivial

/-- A record is no truth value, and it counts as nothing only if it has no field. -/
theorem refused_triState? {value : Value} (hrecord : value.isRecord = true)
    (hnull : value.isNull = false) (what : String) :
    Refused (orExpecting operation what value.triState?) := by
  obtain ⟨fields, rfl⟩ := Value.exists_of_isRecord hrecord
  rw [Value.triState?, hnull]
  trivial

theorem refused_elementCount {value : Value} (hrecord : value.isRecord = true)
    (hnull : value.isNull = false) : Refused (elementCount operation value) := by
  rw [elementCount, hnull]
  exact (refusesRecords_container operation value hrecord).bind _

/-- A record is no scalar, and no container of any cardinality. -/
theorem refused_gather {value : Value} (hrecord : value.isRecord = true)
    (hnull : value.isNull = false) {cardinality : Cardinality} (hcontainer : cardinality ≠ .record)
    (collected : Option BaseType × List Scalar) :
    Refused (gather operation cardinality collected value) := by
  obtain ⟨fields, rfl⟩ := Value.exists_of_isRecord hrecord
  have hcardinality : (Value.record fields).cardinality? = some .record := by
    rw [Value.cardinality?, hnull]
    rfl
  have hshape : (Value.record fields).cardinality? ≠ some .single ∧
      (Value.record fields).cardinality? ≠ some cardinality := by
    rw [hcardinality]
    exact ⟨nofun, fun h => hcontainer (Option.some.inj h).symm⟩
  rw [gather, hnull, if_neg Bool.false_ne_true, if_pos hshape]
  trivial

variable {operands : List Value}

theorem refused_collect {value : Value} (hmem : value ∈ operands)
    (hrecord : value.isRecord = true) (hnull : value.isNull = false) (ordered : Bool)
    (times : Nat) : Refused (collect operation operands ordered times) := by
  have hcontainer : (if ordered then Cardinality.ordered else Cardinality.multiple) ≠ .record := by
    cases ordered <;> nofun
  exact (refused_foldlM hmem (refused_gather operation hrecord hnull hcontainer) _).bind _

variable {a b : Value} (hrecord : a.isRecord = true ∨ b.isRecord = true)

include hrecord

/-- An operator that reads its two operands in such ways refuses a record. -/
theorem refused_two {γ : Type} {left : Value → Except RuntimeFault α}
    {right : Value → Except RuntimeFault β} (hleft : RefusesRecords left)
    (hright : RefusesRecords right) {f : α → β → Except RuntimeFault γ} :
    Refused (left a >>= fun x => right b >>= f x) := by
  obtain hrecord | hrecord := hrecord
  · exact (hleft a hrecord).bind _
  · exact refused_bind fun _ => (hright b hrecord).bind _

/-- The container in which a scalar is looked for is no record, and neither is the scalar. -/
theorem refused_needleAndContainer : Refused (needleAndContainer operation [a, b]) := by
  change Refused (orExpecting operation _ a.scalar? >>= fun needle => container operation b >>= _)
  obtain hrecord | hrecord := hrecord
  · exact (refusesRecords_scalar operation _ a hrecord).bind _
  · exact refused_bind fun _ => (refusesRecords_container operation b hrecord).bind _

theorem refused_includes : Refused (includes operation [a, b]) := by
  obtain hrecord | hrecord := hrecord
  all_goals obtain ⟨fields, rfl⟩ := Value.exists_of_isRecord hrecord
  · trivial
  -- Which cardinality the second operand has to have depends on the first one.
  · cases a <;> trivial

end reading

/-! ### Operators -/

namespace Operator

/-- Whether an operator is meant for records, or is evaluated operand by operand and never
computed. -/
def takesRecords : Operator → Bool
  | and | or | isNull | fieldValue _ | equalValues => true
  | .repeat count => count < 1
  | _ => false

/-- Whether an operator reads the scalars of its operands, whatever holds them. -/
def readsScalars : Operator → Bool
  | inside _ | min | max | gcd | lcm => true
  | _ => false

/-- The value of an operator that reads scalars where there are none. -/
def withoutScalars : Operator → Value
  | inside _ => .boolean false
  | gcd => .integer 0
  | lcm => .integer 1
  | _ => .null

/-- Operands that an operator accepts in number, of which none is nothing and one is a record. -/
structure HasRecord (operator : Operator) (operands : List Value) : Prop where
  /-- There are as many as the operator takes. -/
  accepted : operator.arity.accepts operands.length = true
  /-- None of them is nothing. -/
  notNull : ∀ operand ∈ operands, operand.isNull = false
  /-- One of them is a record. -/
  record : ∃ operand ∈ operands, operand.isRecord = true

/-- An operator has no value over operands of which one is a record. -/
def RejectsRecords (operator : Operator) : Prop :=
  ∀ operands, operator.HasRecord operands → ∀ policy source,
    ∃ fault, operator.apply policy operands source = .error fault

/-- An operator passes over operands that are records. -/
structure PassesOverRecords (operator : Operator) (operands : List Value) : Prop where
  /-- Over records alone it has the value that it has where there are no scalars. -/
  alone : (∀ operand ∈ operands, operand.isRecord = true) → ∀ policy source,
    operator.apply policy operands source = .ok (operator.withoutScalars, source)
  /-- Otherwise it has the value that it has over the other operands. -/
  others : (∃ operand ∈ operands, operand.isRecord = false) → ∀ policy source,
    operator.apply policy operands source =
      operator.apply policy (operands.filter fun operand => !operand.isRecord) source

variable {operator : Operator} {operands : List Value}

theorem HasRecord.any_isNull (h : operator.HasRecord operands) :
    operands.any Value.isNull = false := by
  simpa using h.notNull

/-- The one operand of an operator that takes one is a record. -/
theorem HasRecord.eq_singleton (h : operator.HasRecord operands)
    (harity : operator.arity = .exactly 1) :
    ∃ operand, operands = [operand] ∧ operand.isRecord = true ∧ operand.isNull = false := by
  have haccepted := h.accepted
  rw [harity] at haccepted
  match operands, h with
  | [operand], h =>
    obtain ⟨_, hmem, hrecord⟩ := h.record
    obtain rfl := List.mem_singleton.1 hmem
    exact ⟨_, rfl, hrecord, h.notNull _ hmem⟩
  | [], _ | _ :: _ :: _, _ => simp [Arity.accepts, Arity.exactly] at haccepted

/-- One of the operands of an operator that takes two is a record. -/
theorem HasRecord.eq_pair (h : operator.HasRecord operands)
    (harity : operator.arity = .exactly 2) :
    ∃ a b, operands = [a, b] ∧ (a.isRecord = true ∨ b.isRecord = true) := by
  have haccepted := h.accepted
  rw [harity] at haccepted
  match operands, h with
  | [a, b], h =>
    obtain ⟨operand, hmem, hrecord⟩ := h.record
    refine ⟨a, b, rfl, ?_⟩
    obtain rfl | hmem := List.mem_cons.1 hmem
    · exact .inl hrecord
    · obtain rfl := List.mem_singleton.1 hmem
      exact .inr hrecord
  | [], _ | [_], _ | _ :: _ :: _ :: _, _ => simp [Arity.accepts, Arity.exactly] at haccepted

/-- An operator that reads an operand as more than the scalars in it refuses a record. -/
theorem refused_compute_of_hasRecord (htakes : operator.takesRecords = false)
    (hreads : operator.readsScalars = false) (hrandom : operator ≠ .random)
    (h : operator.HasRecord operands) (policy : OverflowPolicy) :
    Refused (operator.compute policy operands) := by
  obtain ⟨value, hmem, hrecord⟩ := h.record
  have hnull := h.notNull value hmem
  cases operator with
  | and | or | isNull | fieldValue _ | equalValues => cases htakes
  | inside _ | min | max | gcd | lcm => cases hreads
  | random => exact absurd rfl hrandom
  -- containers of the operands
  | multiple | ordered => exact refused_collect _ hmem hrecord hnull _ _
  | «repeat» count =>
    have hcount : ¬count < 1 := of_decide_eq_false htakes
    rw [compute, if_neg hcount]
    exact refused_collect _ hmem hrecord hnull _ _
  -- each operand is a number, or a truth value
  | sum | product => exact (refused_mapM hmem (refusesRecords_addends _ value hrecord)).bind _
  | anyN least greatest =>
    rw [compute, countTrue]
    split
    -- bounds that are below zero are a fault of their own
    · trivial
    · exact (refused_mapM hmem (refused_triState? _ hrecord hnull _)).bind _
  -- the only operand
  | containerSize =>
    obtain ⟨_, rfl, hrecord, hnull⟩ := h.eq_singleton rfl
    exact refused_elementCount _ hrecord hnull
  | index n =>
    obtain ⟨_, rfl, hrecord, -⟩ := h.eq_singleton rfl
    exact refusesRecords_elementAt _ n _ hrecord
  | not =>
    obtain ⟨_, rfl, hrecord, -⟩ := h.eq_singleton rfl
    exact (refusesRecords_boolean _ _ hrecord).bind _
  | patternMatch _ =>
    obtain ⟨_, rfl, hrecord, -⟩ := h.eq_singleton rfl
    exact (refusesRecords_string _ _ hrecord).bind _
  | truncate | round | roundTo _ _ =>
    obtain ⟨_, rfl, hrecord, -⟩ := h.eq_singleton rfl
    exact (refusesRecords_number _ _ hrecord).bind _
  | integerToFloat =>
    obtain ⟨_, rfl, hrecord, -⟩ := h.eq_singleton rfl
    exact (refusesRecords_word _ _ hrecord).bind _
  -- one of two operands
  | member | delete =>
    obtain ⟨a, b, rfl, hrecord⟩ := h.eq_pair rfl
    exact (refused_needleAndContainer _ hrecord).bind _
  | contains =>
    obtain ⟨a, b, rfl, hrecord⟩ := h.eq_pair rfl
    exact refused_includes _ hrecord
  | substring _ | stringMatch _ =>
    obtain ⟨a, b, rfl, hrecord⟩ := h.eq_pair rfl
    exact refused_two hrecord (refusesRecords_string _) (refusesRecords_string _)
  | equal _ | compare _ | subtract | divide | power =>
    obtain ⟨a, b, rfl, hrecord⟩ := h.eq_pair rfl
    exact refused_two hrecord (refusesRecords_number _) (refusesRecords_number _)
  | equalRounded _ _ =>
    obtain ⟨a, b, rfl, hrecord⟩ := h.eq_pair rfl
    change Refused (number _ a >>= _)
    obtain hrecord | hrecord := hrecord
    · exact (refusesRecords_number _ a hrecord).bind _
    -- the first operand is rounded before the second one is read
    · exact refused_bind fun _ => refused_bind fun _ =>
        (refusesRecords_number _ b hrecord).bind _
  | durationLt | durationGte =>
    obtain ⟨a, b, rfl, hrecord⟩ := h.eq_pair rfl
    exact refused_two hrecord (refusesRecords_seconds _) (refusesRecords_seconds _)
  | integerDivide | integerModulus =>
    obtain ⟨a, b, rfl, hrecord⟩ := h.eq_pair rfl
    exact refused_two hrecord (refusesRecords_word _) (refusesRecords_word _)

/-- The one operator that draws a random number draws it for a container. -/
theorem refused_apply_of_hasRecord (htakes : operator.takesRecords = false)
    (hreads : operator.readsScalars = false) (h : operator.HasRecord operands)
    (policy : OverflowPolicy) (source : RandomSource) :
    Refused (operator.apply policy operands source) := by
  by_cases hrandom : operator = .random
  · obtain rfl := hrandom
    obtain ⟨_, rfl, hrecord, hnull⟩ := h.eq_singleton rfl
    rw [apply, if_neg (by simp [hnull])]
    exact (refusesRecords_container _ _ hrecord).bind _
  · rw [apply_of_any_isNull h.any_isNull hrandom]
    exact (refused_compute_of_hasRecord htakes hreads hrandom h policy).map _

/-- Records hold no scalars. -/
theorem scalars_filter_isRecord (operands : List Value) :
    scalars (operands.filter fun operand => !operand.isRecord) = scalars operands := by
  induction operands with
  | nil => rfl
  | cons operand rest ih =>
    rw [scalars, scalars, List.flatMap_cons] at *
    cases hrecord : operand.isRecord with
    | false => rw [List.filter_cons_of_pos (by simp [hrecord]), List.flatMap_cons, ih]
    | true =>
      rw [List.filter_cons_of_neg (by simp [hrecord]), ih, Value.elements_of_isRecord hrecord,
        List.nil_append]

theorem scalars_of_forall_isRecord (h : ∀ operand ∈ operands, operand.isRecord = true) :
    scalars operands = [] :=
  List.flatMap_eq_nil_iff.2 fun operand hmem => Value.elements_of_isRecord (h operand hmem)

/-- An operator that reads scalars finds none in a record, and does not mind. -/
theorem passesOverRecords_of_readsScalars (hreads : operator.readsScalars = true)
    (h : operator.HasRecord operands) : operator.PassesOverRecords operands := by
  have hrandom : operator ≠ .random := by
    rintro rfl
    cases hreads
  refine ⟨fun hall policy source => ?_, fun hother policy source => ?_⟩
  · have hscalars := scalars_of_forall_isRecord hall
    rw [apply_of_any_isNull h.any_isNull hrandom]
    cases operator with
    | inside shape =>
      obtain ⟨operand, rfl, hrecord, -⟩ := h.eq_singleton rfl
      change (pointsInside _ shape operand).map (·, source) = _
      rw [pointsInside, Value.elements_of_isRecord hrecord]
      rfl
    | min | max =>
      rw [compute, extreme, numbers, hscalars]
      rfl
    | gcd | lcm =>
      rw [compute, words, hscalars]
      rfl
    | _ => cases hreads
  · have hnull : (operands.filter fun operand => !operand.isRecord).any Value.isNull = false := by
      simpa using fun operand hmem _ => h.notNull operand hmem
    -- Both lists of operands hold the same scalars, and nothing else is read.
    rw [apply_of_any_isNull h.any_isNull hrandom, apply_of_any_isNull hnull hrandom]
    cases operator with
    | inside shape =>
      -- there is no other operand
      obtain ⟨operand, rfl, hrecord, -⟩ := h.eq_singleton rfl
      obtain ⟨_, hmem, hnone⟩ := hother
      rw [List.mem_singleton.1 hmem, hrecord] at hnone
      cases hnone
    | min | max =>
      rw [compute, compute, extreme, extreme, numbers, numbers, scalars_filter_isRecord]
    | gcd | lcm => rw [compute, compute, words, words, scalars_filter_isRecord]
    | _ => cases hreads

/-- A record of one field. -/
def smallRecord : Value := .record (.ofList [(⟨"a", by decide +kernel⟩, .integer 1)])

/-- An operator that reads scalars takes the record as its only operand. -/
theorem hasRecord_smallRecord (hreads : operator.readsScalars = true) :
    operator.HasRecord [smallRecord] where
  accepted := by
    cases operator with
    | inside _ | min | max | gcd | lcm => rfl
    | _ => cases hreads
  notNull _ hmem := by
    obtain rfl := List.mem_singleton.1 hmem
    rfl
  record := ⟨smallRecord, List.mem_singleton_self _, rfl⟩

/-- Of the operators that are not meant for records exactly those that read no more than scalars do
not reject them. These pass records over: over records alone they have the value of no scalars, and
otherwise the value that they have over the other operands. -/
theorem rejectsRecords_iff (h : operator.takesRecords = false) :
    (operator.RejectsRecords ↔ operator.readsScalars = false) ∧
      (operator.readsScalars = true →
        ∀ operands, operator.HasRecord operands → operator.PassesOverRecords operands) := by
  refine ⟨⟨fun hrejects => ?_, fun hreads operands hrecord policy source => ?_⟩,
    fun hreads operands => passesOverRecords_of_readsScalars hreads⟩
  · by_contra hreads
    rw [Bool.not_eq_false] at hreads
    -- An operator that reads scalars has a value over a record, which it passes over.
    have hrecord := hasRecord_smallRecord hreads
    obtain ⟨fault, hfault⟩ := hrejects _ hrecord .fail (.ofSeed 0)
    have hall : ∀ operand ∈ [smallRecord], operand.isRecord = true :=
      List.forall_mem_singleton.2 rfl
    rw [(passesOverRecords_of_readsScalars hreads hrecord).alone hall] at hfault
    cases hfault
  · exact (refused_apply_of_hasRecord h hreads hrecord policy source).exists_error

/-- A record and one have no sum, but their least is one. -/
theorem rejectsRecords_iff_sum_min :
    (∃ fault, sum.apply .fail [smallRecord, .integer 1] (.ofSeed 0) = .error fault) ∧
      min.apply .fail [smallRecord, .integer 1] (.ofSeed 0) = .ok (.integer 1, .ofSeed 0) := by
  have hnull : ∀ operand ∈ [smallRecord, .integer 1], operand.isNull = false := by
    rw [List.forall_mem_cons, List.forall_mem_singleton]
    exact ⟨rfl, rfl⟩
  have hmem : ∃ operand ∈ [smallRecord, .integer 1], operand.isRecord = true :=
    ⟨smallRecord, List.mem_cons_self, rfl⟩
  have hother : ∃ operand ∈ [smallRecord, .integer 1], operand.isRecord = false :=
    ⟨.integer 1, List.mem_cons_of_mem _ (List.mem_singleton_self _), rfl⟩
  have hsum : sum.RejectsRecords :=
    (rejectsRecords_iff (show sum.takesRecords = false from rfl)).1.2 rfl
  have hmin : min.PassesOverRecords [smallRecord, .integer 1] :=
    (rejectsRecords_iff (show min.takesRecords = false from rfl)).2 rfl _ ⟨rfl, hnull, hmem⟩
  exact ⟨hsum _ ⟨rfl, hnull, hmem⟩ .fail (.ofSeed 0), hmin.others hother .fail (.ofSeed 0)⟩

/-- The least of a record alone is nothing, and no fault. -/
theorem not_forall_rejectsRecords :
    ¬∀ operator : Operator, operator.takesRecords = false → operator.RejectsRecords := by
  intro h
  obtain ⟨fault, hfault⟩ := h min rfl _ (hasRecord_smallRecord rfl) .fail (.ofSeed 0)
  have hnothing : min.apply .fail [smallRecord] (.ofSeed 0) = .ok (.null, .ofSeed 0) := rfl
  rw [hnothing] at hfault
  cases hfault

end Operator

end Assessment
