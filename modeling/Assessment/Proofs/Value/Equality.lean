import Assessment.Proofs.Finite.Value

/-!
# The equality of scoring

Values are compared as what they mean: doubles as numbers, pairs without their order, containers
without order as bags, and all ways of holding nothing as one. A bag is compared by taking the
scalars of the other one out of it, one after the other, each time the first that is equal. That
is as good as any other choice, because scalars that are equal to one are equal to each other.

A double that is no number equals nothing, not even itself. It is the only exception to this being
an equivalence.

## Main definitions

- `Scalar.meaning` and `Value.meaning`: what scalars and values are compared as.
- `Value.IsNumeric`: no double in a value is no number.
- `Value.IsEquality`: what is to be shown of the equality.

## Main results

- `Scalar.beq_iff` and `Value.beq_iff`: equal is what means the same.
- `Scalar.sameBag_iff_perm`: how bags are compared.
- `Value.isEquality_beq`: the equality of values.
-/

namespace Assessment

/-! ### Doubles -/

namespace Double

variable {x y : Float}

theorem hasValue_value (h : x.isNaN = false) : HasValue x (value x) := by
  refine ⟨fun hnone => ?_, rfl⟩
  replace h : x.toModel.unpack.isNaN = false := h
  rw [hnone] at h
  cases h

/-- What is no number compares with nothing. -/
theorem beq_eq_false_of_isNaN (h : x.isNaN = true ∨ y.isNaN = true) : (x == y) = false := by
  have hunpack {z : Float} (hz : z.isNaN = true) : z.toModel.unpack = .notANumber := by
    replace hz : z.toModel.unpack.isNaN = true := hz
    cases hmodel : z.toModel.unpack <;> rw [hmodel] at hz <;> first | rfl | cases hz
  show (Float.Model.UnpackedFloat.compare x.toModel.unpack y.toModel.unpack == some .eq) = false
  obtain hx | hy := h
  · rw [hunpack hx]
    rfl
  · rw [hunpack hy]
    cases x.toModel.unpack <;> rfl

/-- The number that a double is compared as, if it is one. -/
def number? (x : Float) : Option ℚ := if x.isNaN then none else some (value x)

theorem isSome_number? : (number? x).isSome = true ↔ x.isNaN = false := by
  unfold number?
  cases x.isNaN <;> simp

/-- Doubles are compared as the numbers that they stand for. -/
theorem beq_iff : (x == y) = true ↔ x.isNaN = false ∧ number? x = number? y := by
  unfold number?
  by_cases h : x.isNaN = true ∨ y.isNaN = true
  · rw [beq_eq_false_of_isNaN h]
    cases hx : x.isNaN with
    | true => simp only [Bool.false_eq_true, Bool.true_eq_false, false_and]
    | false =>
      have hy : y.isNaN = true := h.resolve_left (by rw [hx]; exact Bool.false_ne_true)
      simp only [hy, if_true, Bool.false_eq_true, if_false, reduceCtorEq, and_false]
  · rw [not_or, Bool.not_eq_true, Bool.not_eq_true] at h
    rw [(hasValue_value h.1).beq_iff (hasValue_value h.2), h.1, h.2]
    simp only [Bool.false_eq_true, if_false, Option.some.injEq, true_and]

end Double

/-! ### Scalars -/

namespace Scalar

/-- What a scalar is compared as. -/
inductive Meaning where
  /-- The number of a double. -/
  | number (number? : Option ℚ)
  /-- The number of seconds of a span of time. -/
  | span (seconds? : Option ℚ)
  /-- Two identifiers in no order. -/
  | pair (ends : Sym2 Identifier)
  /-- The scalar itself. -/
  | itself (scalar : Scalar)

/-- There is a number where a double is compared. -/
def Meaning.IsNumeric : Meaning → Prop
  | number x | span x => x.isSome = true
  | _ => True

/-- What a scalar is compared as. -/
def meaning : Scalar → Meaning
  | float x => .number (Double.number? x)
  | duration x => .span (Double.number? x)
  | pair a b => .pair s(a, b)
  | scalar => .itself scalar

/-- Where a scalar holds a double, it is a number. -/
def IsNumeric : Scalar → Prop
  | float x | duration x => x.isNaN = false
  | _ => True

variable {a b : Scalar}

/-- Equal is what means the same, unless it is no number. -/
theorem beq_iff : (a == b) = true ↔ a.IsNumeric ∧ a.meaning = b.meaning := by
  change same a b = true ↔ _
  -- Only doubles and pairs are compared as anything but themselves.
  cases a with
  | float x =>
    cases b with
    | float y => simp only [same, IsNumeric, meaning, Meaning.number.injEq, Double.beq_iff]
    | _ => simp [same, IsNumeric, meaning]
  | duration x =>
    cases b with
    | duration y => simp only [same, IsNumeric, meaning, Meaning.span.injEq, Double.beq_iff]
    | _ => simp [same, IsNumeric, meaning]
  | pair first second =>
    cases b with
    | pair _ _ => simp [same, IsNumeric, meaning]
    | _ => simp [same, IsNumeric, meaning]
  | _ => cases b <;> simp [same, IsNumeric, meaning]

/-- Scalars that mean the same are of one base type. -/
theorem baseType_eq_of_meaning (h : a.meaning = b.meaning) : a.baseType = b.baseType := by
  cases a <;> cases b <;> simp_all [meaning, baseType]

/-- Whether a double is a number can be told from what it is compared as. -/
theorem isNumeric_iff : a.IsNumeric ↔ a.meaning.IsNumeric := by
  cases a with
  | float x | duration x => exact Double.isSome_number?.symm
  | _ => exact Iff.rfl

theorem isNumeric_congr (h : a.meaning = b.meaning) (ha : a.IsNumeric) : b.IsNumeric := by
  rw [isNumeric_iff] at ha ⊢
  rwa [← h]

/-! ### Lists of scalars -/

variable {items others bag rest : List Scalar}

/-- What is taken out of a bag is the first scalar that is equal. -/
theorem takeOut_eq_some (h : takeOut a bag = some rest) :
    ∃ candidate, (candidate == a) = true ∧ bag.Perm (candidate :: rest) := by
  induction bag generalizing rest with
  | nil => cases h
  | cons candidate others ih =>
    rw [takeOut] at h
    split at h
    next hequal =>
      cases h
      exact ⟨candidate, hequal, .refl _⟩
    next =>
      obtain ⟨left, hleft, rfl⟩ := Option.map_eq_some_iff.1 h
      obtain ⟨found, hequal, hperm⟩ := ih hleft
      exact ⟨found, hequal, (hperm.cons candidate).trans (.swap _ _ _)⟩

/-- Something is taken out of a bag that has something equal. -/
theorem exists_takeOut (hmem : b ∈ bag) (hequal : (b == a) = true) :
    ∃ rest, takeOut a bag = some rest := by
  induction bag with
  | nil => cases hmem
  | cons candidate others ih =>
    rw [takeOut]
    split
    next => exact ⟨_, rfl⟩
    next hdifferent =>
      obtain rfl | hmem := List.mem_cons.1 hmem
      · exact absurd hequal hdifferent
      · obtain ⟨rest, hrest⟩ := ih hmem
        exact ⟨candidate :: rest, by rw [hrest, Option.map_some]⟩

/-- Everything is taken out of a bag, with nothing left, if it holds what means the same. -/
theorem takeOutAll_eq_nil_iff :
    takeOutAll items bag = some [] ↔
      (∀ scalar ∈ items, scalar.IsNumeric) ∧ (items.map meaning).Perm (bag.map meaning) := by
  induction items generalizing bag with
  | nil =>
    rw [takeOutAll, Option.some_inj, List.map_nil, List.nil_perm, List.map_eq_nil_iff]
    exact ⟨fun h => ⟨nofun, h⟩, fun h => h.2⟩
  | cons first rest ih =>
    rw [takeOutAll, Option.bind_eq_bind, Option.bind_eq_some_iff, List.map_cons]
    constructor
    · rintro ⟨left, htaken, hleft⟩
      obtain ⟨hrest, hperm⟩ := ih.1 hleft
      obtain ⟨candidate, hequal, hbag⟩ := takeOut_eq_some htaken
      obtain ⟨hcandidate, hmeaning⟩ := beq_iff.1 hequal
      refine ⟨List.forall_mem_cons.2 ⟨isNumeric_congr hmeaning hcandidate, hrest⟩, ?_⟩
      rw [← hmeaning]
      exact (hperm.cons _).trans (hbag.map meaning).symm
    · rintro ⟨hnumeric, hperm⟩
      obtain ⟨hfirst, hrest⟩ := List.forall_mem_cons.1 hnumeric
      -- The bag holds something that means the same as the first scalar, and whatever is taken for
      -- it also does.
      obtain ⟨same, hsame, hmeaning⟩ := List.mem_map.1 (hperm.subset List.mem_cons_self)
      obtain ⟨left, htaken⟩ :=
        exists_takeOut hsame (beq_iff.2 ⟨isNumeric_congr hmeaning.symm hfirst, hmeaning⟩)
      obtain ⟨candidate, hequal, hbag⟩ := takeOut_eq_some htaken
      refine ⟨left, htaken, ih.2 ⟨hrest, List.Perm.cons_inv (a := candidate.meaning) ?_⟩⟩
      have hbag := hbag.map meaning
      rw [← (beq_iff.1 hequal).2] at hperm
      exact hperm.trans hbag

/-- Bags are equal if what their scalars mean is the same up to the order. -/
theorem sameBag_iff_perm :
    sameBag items others = true ↔
      (∀ scalar ∈ items, scalar.IsNumeric) ∧ (items.map meaning).Perm (others.map meaning) := by
  rw [← takeOutAll_eq_nil_iff, sameBag]
  split
  next h => simp [h]
  next h => simpa using h

/-- Lists are equal if they are position by position. -/
theorem sameList_iff_forall₂ :
    sameList items others = true ↔ List.Forall₂ (fun a b => (a == b) = true) items others := by
  induction items generalizing others with
  | nil => cases others <;> simp [sameList]
  | cons first rest ih =>
    cases others with
    | nil => simp [sameList]
    | cons other others => rw [sameList, Bool.and_eq_true, List.forall₂_cons, ih]

/-- Scalars are equal position by position if what they mean is the same. -/
theorem forall₂_beq_iff :
    List.Forall₂ (fun a b : Scalar => (a == b) = true) items others ↔
      (∀ scalar ∈ items, scalar.IsNumeric) ∧ items.map meaning = others.map meaning := by
  induction items generalizing others with
  | nil => cases others <;> simp
  | cons first rest ih =>
    cases others with
    | nil => simp
    | cons other others =>
      rw [List.forall₂_cons, beq_iff, ih, List.forall_mem_cons, List.map_cons, List.map_cons,
        List.cons.injEq, and_and_and_comm]

/-- A bag of scalars means what another one does if it is equal to it scalar by scalar, after it is
put into a suitable order. -/
theorem exists_perm_forall₂_iff :
    (∃ sorted : List Scalar, sorted.Perm others ∧
        List.Forall₂ (fun a b => (a == b) = true) items sorted) ↔
      (∀ scalar ∈ items, scalar.IsNumeric) ∧ (items.map meaning).Perm (others.map meaning) := by
  have hsorted : (∃ sorted : List Scalar,
      items.map meaning = sorted.map meaning ∧ sorted.Perm others) ↔
        (items.map meaning).Perm (others.map meaning) :=
    Iff.of_eq (congrFun₂ (List.eq_map_comp_perm meaning) _ others)
  rw [← hsorted]
  simp only [forall₂_beq_iff]
  exact ⟨fun ⟨sorted, hperm, hnumeric, hmeaning⟩ => ⟨hnumeric, sorted, hmeaning, hperm⟩,
    fun ⟨hnumeric, sorted, hmeaning, hperm⟩ => ⟨sorted, hperm, hnumeric, hmeaning⟩⟩

end Scalar

/-! ### Containers and records -/

namespace Container

variable {x y : Container}

/-- The base type of a container is that of any of its scalars, so that containers in which one
scalar means the same are of one base type. -/
theorem baseType_eq_of_perm (hne : x.items ≠ [])
    (h : (x.items.map Scalar.meaning).Perm (y.items.map Scalar.meaning)) :
    x.baseType = y.baseType := by
  obtain ⟨first, hfirst⟩ := List.exists_mem_of_ne_nil _ hne
  obtain ⟨other, hother, hmeaning⟩ := List.mem_map.1 (h.subset (List.mem_map_of_mem hfirst))
  rw [← x.homogeneous first hfirst, ← y.homogeneous other hother]
  exact (Scalar.baseType_eq_of_meaning hmeaning).symm

theorem sameBag_iff (hne : x.items ≠ []) :
    x.sameBag y = true ↔
      (∀ scalar ∈ x.items, scalar.IsNumeric) ∧
        (x.items.map Scalar.meaning).Perm (y.items.map Scalar.meaning) := by
  rw [sameBag, Bool.and_eq_true, decide_eq_true_iff, Scalar.sameBag_iff_perm]
  exact ⟨fun h => h.2, fun h => ⟨baseType_eq_of_perm hne h.2, h⟩⟩

theorem sameList_iff (hne : x.items ≠ []) :
    x.sameList y = true ↔ List.Forall₂ (fun a b => (a == b) = true) x.items y.items := by
  rw [sameList, Bool.and_eq_true, decide_eq_true_iff, Scalar.sameList_iff_forall₂]
  refine ⟨fun h => h.2, fun h => ⟨baseType_eq_of_perm hne ?_, h⟩⟩
  exact .of_eq (Scalar.forall₂_beq_iff.1 h).2

end Container

/-- Records are equal if they have equal scalars under the same names. -/
theorem SortedMap.beq_iff {x y : SortedMap Identifier Scalar} :
    (x == y) = true ↔ (∀ scalar ∈ x.values, scalar.IsNumeric) ∧
      x.toList.map (fun field => (field.1, field.2.meaning)) =
        y.toList.map (fun field => (field.1, field.2.meaning)) := by
  change (x.entries == y.entries) = true ↔ (∀ scalar ∈ x.entries.map (·.2), _) ∧
    x.entries.map _ = y.entries.map _
  generalize x.entries = fields
  generalize y.entries = others
  induction fields generalizing others with
  | nil => cases others <;> simp
  | cons first rest ih =>
    cases others with
    | nil => simp
    | cons other others =>
      obtain ⟨name, scalar⟩ := first
      obtain ⟨otherName, otherScalar⟩ := other
      have hfirst : ((name, scalar) == (otherName, otherScalar)) = true ↔
          name = otherName ∧ scalar.IsNumeric ∧ scalar.meaning = otherScalar.meaning := by
        change ((name == otherName) && (scalar == otherScalar)) = true ↔ _
        rw [Bool.and_eq_true, beq_iff_eq, Scalar.beq_iff]
      rw [List.cons_beq_cons, Bool.and_eq_true, hfirst, ih]
      simp only [List.map_cons, List.forall_mem_cons, List.cons.injEq, Prod.mk.injEq]
      tauto

/-! ### Values -/

namespace Value

/-- What a value is compared as. -/
inductive Meaning where
  /-- Nothing. -/
  | nothing
  /-- One scalar. -/
  | single (scalar : Scalar.Meaning)
  /-- Scalars in no order. -/
  | multiple (bag : Multiset Scalar.Meaning)
  /-- Scalars in order. -/
  | ordered (items : List Scalar.Meaning)
  /-- Scalars under field names. -/
  | record (fields : List (Identifier × Scalar.Meaning))

/-- What a value is compared as unless it holds nothing. -/
def content : Value → Meaning
  | null => .nothing
  | single scalar => .single scalar.meaning
  | multiple container => .multiple (container.items.map Scalar.meaning)
  | ordered container => .ordered (container.items.map Scalar.meaning)
  | record fields => .record (fields.toList.map fun field => (field.1, field.2.meaning))

/-- What a value is compared as. -/
def meaning (value : Value) : Meaning := if value.isNull then .nothing else value.content

/-- All doubles in a value are numbers. -/
def IsNumeric (value : Value) : Prop := ∀ scalar ∈ value.scalars, scalar.IsNumeric

variable {a b : Value}

/-- What the scalars of a value are compared as. -/
def Meaning.scalars : Meaning → Multiset Scalar.Meaning
  | nothing => 0
  | single scalar => {scalar}
  | multiple bag => bag
  | ordered items => items
  | record fields => fields.map (·.2)

/-- The cardinality of the values that are compared as this. -/
def Meaning.cardinality? : Meaning → Option Cardinality
  | nothing => none
  | single _ => some .single
  | multiple _ => some .multiple
  | ordered _ => some .ordered
  | record _ => some .record

theorem meaning_eq_nothing_iff : a.meaning = .nothing ↔ a.isNull = true := by
  unfold meaning
  split
  next h => exact iff_of_true rfl h
  next h => cases a <;> simp_all [isNull, content]

theorem scalars_of_isNull (h : a.isNull = true) : a.scalars = [] := by
  cases a with
  | null => rfl
  | single _ => cases h
  | multiple _ | ordered _ => exact List.isEmpty_iff.1 h
  | record fields => exact List.map_eq_nil_iff.2 (List.isEmpty_iff.1 h)

/-- The scalars of a value can be told from what it is compared as, up to their order. -/
theorem scalars_meaning : a.meaning.scalars = a.scalars.map Scalar.meaning := by
  unfold meaning
  split
  next h => rw [scalars_of_isNull h]; rfl
  next =>
    cases a with
    | record fields =>
      change ((_ : List Scalar.Meaning) : Multiset Scalar.Meaning) = _
      rw [scalars, SortedMap.values, SortedMap.toList, List.map_map, List.map_map]
      rfl
    | _ => rfl

theorem cardinality?_meaning : a.meaning.cardinality? = a.cardinality? := by
  unfold meaning cardinality?
  split
  next => rfl
  next h =>
    cases a with
    | null => exact absurd rfl h
    | _ => rfl

theorem isNumeric_of_isNull (h : a.isNull = true) : a.IsNumeric := by
  rw [IsNumeric, scalars_of_isNull h]
  exact List.forall_mem_nil _

theorem isNumeric_iff : a.IsNumeric ↔ ∀ scalar ∈ a.meaning.scalars, scalar.IsNumeric := by
  rw [scalars_meaning]
  simp [IsNumeric, Scalar.isNumeric_iff]

/-- Equal is what means the same, unless a double is no number. -/
theorem beq_iff : (a == b) = true ↔ a.IsNumeric ∧ a.meaning = b.meaning := by
  change same a b = true ↔ _
  unfold same
  cases ha : a.isNull with
  | true =>
    rw [Bool.true_or, if_pos rfl, Bool.true_and, meaning_eq_nothing_iff.2 ha,
      eq_comm (b := b.meaning), meaning_eq_nothing_iff, and_iff_right (isNumeric_of_isNull ha)]
  | false =>
    cases hb : b.isNull with
    | true =>
      rw [Bool.or_true, if_pos rfl, Bool.false_and, meaning_eq_nothing_iff.2 hb,
        meaning_eq_nothing_iff, ha]
      simp
    | false =>
      rw [Bool.or_false, if_neg Bool.false_ne_true, meaning, meaning, ha, hb,
        if_neg Bool.false_ne_true, if_neg Bool.false_ne_true]
      cases a with
      | null => cases ha
      | single x =>
        cases b with
        | single y => simp [Scalar.beq_iff, IsNumeric, scalars, content]
        | _ => simp [content]
      | multiple x =>
        cases b with
        | multiple y =>
          simp only [content, Meaning.multiple.injEq, Multiset.coe_eq_coe]
          exact Container.sameBag_iff (List.isEmpty_eq_false_iff.1 ha)
        | _ => simp [content]
      | ordered x =>
        cases b with
        | ordered y =>
          simp only [content, Meaning.ordered.injEq]
          exact (Container.sameList_iff (List.isEmpty_eq_false_iff.1 ha)).trans
            Scalar.forall₂_beq_iff
        | _ => simp [content]
      | record x =>
        cases b with
        | record y =>
          simp only [content, Meaning.record.injEq]
          exact SortedMap.beq_iff
        | _ => simp [content]

/-! ### The laws of equality -/

@[simp]
theorem beq_single (x y : Scalar) : (single x == single y) = (x == y) := rfl

theorem meaning_multiple_eq_iff {x y : Container} :
    (multiple x).meaning = (multiple y).meaning ↔
      (x.items.map Scalar.meaning).Perm (y.items.map Scalar.meaning) := by
  cases hx : x.items <;> cases hy : y.items <;>
    simp [meaning, isNull, content, Container.isEmpty, hx, hy]

theorem meaning_ordered_eq_iff {x y : Container} :
    (ordered x).meaning = (ordered y).meaning ↔
      x.items.map Scalar.meaning = y.items.map Scalar.meaning := by
  cases hx : x.items <;> cases hy : y.items <;>
    simp [meaning, isNull, content, Container.isEmpty, hx, hy]

/-- What there is to hold nothing. -/
theorem isNull_iff :
    a.isNull = true ↔ a = null ∨
      (∃ container, (a = multiple container ∨ a = ordered container) ∧ container.items = []) ∨
      ∃ fields, a = record fields ∧ fields.toList = [] := by
  cases a with
  | null => simp [isNull]
  | single _ => simp [isNull]
  | multiple container | ordered container => simp [isNull, Container.isEmpty]
  | record fields => simp [isNull, SortedMap.isEmpty, SortedMap.toList]

/-- An equality of values that looks at containers without order as at bags. Scalars are compared as
the single values that hold them. -/
structure IsEquality (same : Value → Value → Bool) : Prop where
  /-- A value is equal to itself, unless a double in it is no number. -/
  refl : ∀ a, a.IsNumeric → same a a = true
  /-- It is no matter which of two values comes first. -/
  symm : ∀ a b, same a b = true → same b a = true
  /-- Values that are equal to one are equal to each other. -/
  trans : ∀ a b c, same a b = true → same b c = true → same a c = true
  /-- Nothing is equal to nothing, to containers without scalars and to records without fields. -/
  null_iff : ∀ a, same null a = true ↔ a = null ∨
    (∃ container, (a = multiple container ∨ a = ordered container) ∧ container.items = []) ∨
    ∃ fields, a = record fields ∧ fields.toList = []
  /-- The order of a pair is no matter. -/
  pair_iff : ∀ a b c d, same (single (.pair a b)) (single (.pair c d)) = true ↔
    (a = c ∧ b = d) ∨ (a = d ∧ b = c)
  /-- Containers without order are equal if the scalars of one can be put into an order in which
  they are equal to those of the other. -/
  multiple_iff : ∀ x y, x.items ≠ [] → y.items ≠ [] →
    (same (multiple x) (multiple y) = true ↔ x.baseType = y.baseType ∧
      ∃ sorted : List Scalar, sorted.Perm y.items ∧
        List.Forall₂ (fun a b => same (single a) (single b) = true) x.items sorted)
  /-- Containers with order are equal if they are position by position. -/
  ordered_iff : ∀ x y, same (ordered x) (ordered y) = true ↔
    List.Forall₂ (fun a b => same (single a) (single b) = true) x.items y.items
  /-- Values that are equal hold nothing, or are both of one cardinality. -/
  cardinality : ∀ a b, same a b = true → (a.isNull = true ∧ b.isNull = true) ∨
    ∃ cardinality, a.cardinality? = some cardinality ∧ b.cardinality? = some cardinality

/-- **The equality of scoring is an equivalence, for which containers without order are bags.** Only
a double that is no number is not equal to itself. -/
theorem isEquality_beq : IsEquality (· == ·) where
  refl a h := beq_iff.2 ⟨h, rfl⟩
  symm a b h := by
    obtain ⟨hnumeric, hmeaning⟩ := beq_iff.1 h
    rw [isNumeric_iff, hmeaning, ← isNumeric_iff] at hnumeric
    exact beq_iff.2 ⟨hnumeric, hmeaning.symm⟩
  trans a b c hab hbc := by
    obtain ⟨hnumeric, hfirst⟩ := beq_iff.1 hab
    exact beq_iff.2 ⟨hnumeric, hfirst.trans (beq_iff.1 hbc).2⟩
  null_iff a := by
    rw [← isNull_iff, beq_iff, meaning_eq_nothing_iff.2 (show null.isNull = true from rfl), eq_comm,
      meaning_eq_nothing_iff]
    exact and_iff_right (isNumeric_of_isNull rfl)
  pair_iff a b c d := by
    rw [beq_single, Scalar.beq_iff, Scalar.meaning, Scalar.meaning, Scalar.Meaning.pair.injEq,
      Sym2.eq_iff]
    exact and_iff_right trivial
  multiple_iff x y hx hy := by
    simp only [beq_single, Scalar.exists_perm_forall₂_iff]
    rw [beq_iff, meaning_multiple_eq_iff]
    exact ⟨fun h => ⟨Container.baseType_eq_of_perm hx h.2, h⟩, fun h => h.2⟩
  ordered_iff x y := by
    simp only [beq_single, Scalar.forall₂_beq_iff]
    rw [beq_iff, meaning_ordered_eq_iff]
    rfl
  cardinality a b h := by
    have hmeaning := (beq_iff.1 h).2
    have hcardinality : b.cardinality? = a.cardinality? := by
      rw [← cardinality?_meaning, ← hmeaning, cardinality?_meaning]
    cases ha : a.isNull with
    | true => exact .inl ⟨rfl, meaning_eq_nothing_iff.1 (hmeaning ▸ meaning_eq_nothing_iff.2 ha)⟩
    | false =>
      refine .inr ?_
      rw [hcardinality]
      unfold cardinality?
      rw [ha]
      cases a <;> exact ⟨_, rfl, rfl⟩

end Value

end Assessment
